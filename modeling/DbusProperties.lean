import DbusProperties.FlatMap
import DbusProperties.Message
import DbusProperties.Interface
import DbusProperties.Server
import DbusProperties.Dispatch
import DbusProperties.Notification
import DbusProperties.Introspect
import DbusProperties.ObjectManager
import DbusProperties.Run
import DbusProperties.Invariant
import DbusProperties.PropertiesInterface
import DbusProperties.StaticEndpoints
import DbusProperties.Signatures
import DbusProperties.Snapshot
import DbusProperties.BusView
import DbusProperties.Traffic
import DbusProperties.IntrospectXml
import DbusProperties.IntrospectView
import DbusProperties.Announcements
