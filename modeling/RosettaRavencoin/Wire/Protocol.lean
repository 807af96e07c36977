/-
  RosettaRavencoin.Wire.Protocol — the service flags of `wire/protocol.go` and
  `ServiceFlag.String`.

  A `ServiceFlag` is a `uint64` with one bit per service; the eight named flags are bits 0
  to 7. `String` writes `0x0` for no flag; otherwise it walks `orderedSFStrings`, appending
  the name of each flag set and a `|` and subtracting the flag, trims the last `|`,
  appends `|0x` and the hex of what is left when something is, and trims a leading `|`.

  `BitcoinNet.String` is the table lookup with a default that `RavencoinNet.String` also
  is (`Go.netString`); `bitcoinNet_string_injective` holds as its names are distinct.
-/

import RosettaRavencoin.Go.Strings

namespace RosettaRavencoin.Wire

open Go

abbrev ServiceFlag := UInt64

def sfNodeNetwork : ServiceFlag := (1 : ServiceFlag) <<< 0
def sfNodeGetUTXO : ServiceFlag := (1 : ServiceFlag) <<< 1
def sfNodeBloom : ServiceFlag := (1 : ServiceFlag) <<< 2
def sfNodeWitness : ServiceFlag := (1 : ServiceFlag) <<< 3
def sfNodeXthin : ServiceFlag := (1 : ServiceFlag) <<< 4
def sfNodeBit5 : ServiceFlag := (1 : ServiceFlag) <<< 5
def sfNodeCF : ServiceFlag := (1 : ServiceFlag) <<< 6
def sfNode2X : ServiceFlag := (1 : ServiceFlag) <<< 7

def sfStrings : List (ServiceFlag × String) :=
  [(sfNodeNetwork, "SFNodeNetwork"), (sfNodeGetUTXO, "SFNodeGetUTXO"),
   (sfNodeBloom, "SFNodeBloom"), (sfNodeWitness, "SFNodeWitness"), (sfNodeXthin, "SFNodeXthin"),
   (sfNodeBit5, "SFNodeBit5"), (sfNodeCF, "SFNodeCF"), (sfNode2X, "SFNode2X")]

/-- `sfStrings[flag]`: the empty string for a flag the map does not hold. -/
def sfString (flag : ServiceFlag) : String := (sfStrings.lookup flag).getD ""

def orderedSFStrings : List ServiceFlag :=
  [sfNodeNetwork, sfNodeGetUTXO, sfNodeBloom, sfNodeWitness, sfNodeXthin, sfNodeBit5, sfNodeCF,
   sfNode2X]

/-- One turn of `String`'s loop, on the text so far and the flags not yet named. -/
def stringStep (acc : String × ServiceFlag) (flag : ServiceFlag) : String × ServiceFlag :=
  if acc.2 &&& flag == flag then (acc.1 ++ sfString flag ++ "|", acc.2 - flag) else acc

/-- `ServiceFlag.String`. -/
def ServiceFlag.string (f : ServiceFlag) : String :=
  if f = 0 then "0x0" else
  let (s, f) := orderedSFStrings.foldl stringStep ("", f)
  let s := trimRight s "|"
  let s := if f ≠ 0 then s ++ "|0x" ++ formatUint f 16 else s
  trimLeft s "|"

/-- `BitcoinNet`: the magic bytes of a network on the wire. -/
abbrev BitcoinNet := UInt32

def mainNet : BitcoinNet := 0x63617368

def testNet : BitcoinNet := 0xbff2cde6

def regtest : BitcoinNet := 0x2f54cc9d

def bnStrings : List (BitcoinNet × String) :=
  [(mainNet, "MainNet"), (testNet, "TestNet"), (regtest, "Regtest")]

/-- `BitcoinNet.String`. -/
def BitcoinNet.string (n : BitcoinNet) : String := netString bnStrings "BitcoinNet" n

theorem bitcoinNet_string_injective : Function.Injective BitcoinNet.string :=
  fun _ _ h => netString_inj (by decide) (by decide) h

end RosettaRavencoin.Wire
