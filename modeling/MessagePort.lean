import MessagePort.Session.Mirror
import MessagePort.Refinement.History
import MessagePort.Safety.Certificate
import MessagePort.Session.Register
import MessagePort.Session.Status
import MessagePort.Session.Delivery
import MessagePort.Client.Codec
import MessagePort.Safety.Sender
import MessagePort.Daemon.Answers
import MessagePort.Safety.Replies
import MessagePort.Safety.Verdict
import MessagePort.Refinement.SendPaths
import MessagePort.Session.Check
import MessagePort.Client.Outcomes
import MessagePort.Client.Tables
import MessagePort.Session.Solo
import MessagePort.Session.Ports
import MessagePort.Session.Answer
import MessagePort.Daemon.Unregister
import MessagePort.Safety.Unidentified
import MessagePort.Session.Kinds
import MessagePort.Session.PortId
import MessagePort.Client.Factory
import MessagePort.Safety.Threads
import MessagePort.Session.Addressed
import MessagePort.Session.Callbacks
import MessagePort.Session.Handed
import MessagePort.Session.Progress
import MessagePort.Session.Idle
import MessagePort.Safety.Comparisons
import MessagePort.Safety.Faults
import MessagePort.Daemon.Shutdown
import MessagePort.Refinement.Ownership
import MessagePort.Refinement.Clients
import MessagePort.Client.Startup
import MessagePort.Session.Arrivals
import MessagePort.Session.Conversation
