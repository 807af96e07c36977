import RosettaRavencoin.Go.Strings
import RosettaRavencoin.Go.Hex
import RosettaRavencoin.Chaincfg.Params
import RosettaRavencoin.Chaincfg.Registry
import RosettaRavencoin.Chaincfg.Order
import RosettaRavencoin.Chaincfg.Load
import RosettaRavencoin.Wire.Protocol
import RosettaRavencoin.Wire.ServiceFlag
