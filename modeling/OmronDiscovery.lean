import OmronDiscovery.Bytes
import OmronDiscovery.Serializer
import OmronDiscovery.Deserializer
import OmronDiscovery.RoundTrip
import OmronDiscovery.DataType
import OmronDiscovery.RequestContext
import OmronDiscovery.VariableInfo
import OmronDiscovery.InstanceData
import OmronDiscovery.Enumeration
import OmronDiscovery.HonestController
import OmronDiscovery.Catalog
import OmronDiscovery.Cip
import OmronDiscovery.OverTransport
