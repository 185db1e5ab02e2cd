import LionsOS.Firewall.RouterCapacity
import LionsOS.Fat.DiskWrites
import LionsOS.Fs.MessageQueue
import LionsOS.Firewall.SharedQueue
import LionsOS.Nfs.Resources
import LionsOS.Fs.ShareBounds
import LionsOS.Firewall.VirtTxReturns
import LionsOS.Fs.PathBuffers
import LionsOS.Fat.NotifiedReturns
import LionsOS.Fs.OwnCompletions
import LionsOS.Sock.Streams
import LionsOS.Sock.PcbOwners
import LionsOS.Sock.Wakeups
import LionsOS.Posix.SocketCounts
import LionsOS.Posix.Morecore
import LionsOS.Firewall.FilterLookup
import LionsOS.Firewall.WaitingQueues
import LionsOS.Firewall.RouterGuard
import LionsOS.Firewall.IcmpResponses
import LionsOS.Firewall.AddressFilter
import LionsOS.Firewall.SubnetBroadcast
import LionsOS.Fs.FdGenerations
import LionsOS.Firewall.ArpCache
import LionsOS.Firewall.ArpFrames
import LionsOS.Firewall.EchoReplies
import LionsOS.Nfs.RenamePaths
import LionsOS.Fat.StoredResults
import LionsOS.Fat.CloseFailures
import LionsOS.Nfs.SlotBalance
import LionsOS.Fat.DiskTransfers
import LionsOS.Fs.DirectoryListings
import LionsOS.Posix.FailedOpens
import LionsOS.Posix.UnissuedCommands
import LionsOS.Posix.DirectoryPaths
import LionsOS.Posix.UnlinkedPaths
import LionsOS.Posix.Polling
import LionsOS.Sock.ConnectFailures
import LionsOS.Sock.LayerAssertions
import LionsOS.Sock.Backlog
import LionsOS.Serial.ConsoleOutput
import LionsOS.Serial.StdoutStrings
import LionsOS.Posix.DescriptorTables
import LionsOS.Posix.NullCalls
import LionsOS.Posix.ReceivedFrom
import LionsOS.Micropython.FileSizes
import LionsOS.Micropython.BufferBounds
import LionsOS.Micropython.RenamePaths
import LionsOS.Micropython.I2cTransfers
import LionsOS.Micropython.DirectoryIteration
import LionsOS.Firewall.VirtRxPlaces
import LionsOS.Firewall.UiServer
import LionsOS.Firewall.WebserverPort
