import ConfigdExtra.BondIdempotent
import ConfigdExtra.BondMembership
import ConfigdExtra.BondSessions
import ConfigdExtra.InterfaceRoundTrip
import ConfigdExtra.NwiGenerations
import ConfigdExtra.GuardedRun
import ConfigdExtra.DnsLoops
import ConfigdExtra.DnsEffects
import ConfigdExtra.DnsSlots
import ConfigdExtra.DnsTiles
import ConfigdExtra.DnsLists
import ConfigdExtra.DnsFilled
import ConfigdExtra.DnsDecode
import ConfigdExtra.InterfaceStorage
import ConfigdExtra.ResolvConfReplace
import ConfigdExtra.ScutilNotify
import ConfigdExtra.ScutilOptions
import ConfigdExtra.InterfaceOptions
import ConfigdExtra.InterfaceReflects
import ConfigdExtra.ProtocolOptions
import ConfigdExtra.SetAllOrNothing
import ConfigdExtra.FlaggedEdits
import ConfigdExtra.NetSession
import ConfigdExtra.NetFlag
import ConfigdExtra.NetObjects
import ConfigdExtra.NetCaches
import ConfigdExtra.NetStanding
import ConfigdExtra.PrefsSession
import ConfigdExtra.CommandLine
import ConfigdExtra.CommandFiles
import ConfigdExtra.PathConfiguration
import ConfigdExtra.InterfaceConfiguration
import ConfigdExtra.NwiIfList
import ConfigdExtra.NwiDiffReverse
import ConfigdExtra.NwiDiffBounds
import ConfigdExtra.NwiDiffForm
import ConfigdExtra.InterfaceOrder
import ConfigdExtra.EntityFaults
import ConfigdExtra.DispatchSafety
import ConfigdExtra.NwiAddIfstate
import ConfigdExtra.NwiAlias
import ConfigdExtra.CommandCursor
import ConfigdExtra.CommandSafety
import ConfigdExtra.CommandPasses
import ConfigdExtra.CommandQuoting
import ConfigdExtra.InteractiveInput
import ConfigdExtra.DomainNames
import ConfigdExtra.NumericOptions
import ConfigdExtra.DictionaryValues
import ConfigdExtra.StoredPasswords
import ConfigdExtra.ServiceCreation
import ConfigdExtra.ProtocolConsistency
import ConfigdExtra.ProxySelection
import ConfigdExtra.ArgumentSafety
import ConfigdExtra.InterfaceIndex
import ConfigdExtra.ScriptInput
import ConfigdExtra.PrefsHandover
import ConfigdExtra.PrefsPaths
import ConfigdExtra.PrefsFile
import ConfigdExtra.InterfaceCopy
import ConfigdExtra.ServiceRename
import ConfigdExtra.MigrationResult
import ConfigdExtra.SlotPorts
import ConfigdExtra.DeepRestore
import ConfigdExtra.StoredInterfaces
import ConfigdExtra.ScSelect
import ConfigdExtra.BondCreate
import ConfigdExtra.StringBuffer
import ConfigdExtra.FlagLists
import ConfigdExtra.FlagStrings
import ConfigdExtra.SharedRights
import ConfigdExtra.HelperClient
import ConfigdExtra.AtomicObjects
import ConfigdExtra.ControlPreferences
import ConfigdExtra.PreferencesNotifications
import ConfigdExtra.ObjectPools
import ConfigdExtra.InterfaceCache
import ConfigdExtra.InterfaceParts
import ConfigdExtra.InterfaceSharing
import ConfigdExtra.InterfaceOwners
import ConfigdExtra.InterfaceRuns
