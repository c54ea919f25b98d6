import Ztcpp.AddressEquality
import Ztcpp.Events.Description
import Ztcpp.Events.Progress
import Ztcpp.Examples.Conversation
import Ztcpp.Examples.NodeInfo
import Ztcpp.NetworkOrder
import Ztcpp.NoFalseSuccess
import Ztcpp.Socket.AddressImages
import Ztcpp.Socket.CloseEquivalence
import Ztcpp.Socket.FailedOperations
import Ztcpp.Socket.Messages
import Ztcpp.Socket.Polling
import Ztcpp.Socket.Sender
import Ztcpp.Socket.Sizes
import Ztcpp.Socket.StreamNetwork
import Ztcpp.Socket.Threads
