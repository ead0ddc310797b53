import Kawin.Base.ByteMemory
import Kawin.Base.Transition
import Kawin.Base.Recording
import Kawin.Base.Ranking
import Kawin.Base.Refinement
import Kawin.Base.CircularBuffer
import Kawin.Base.BucketTable
import Kawin.Base.ByteList
import Kawin.Base.TracedReader
import Kawin.Base.TracedMemory
import Kawin.Base.TerminatedText
import Kawin.Base.PrefixCode
import Kawin.Base.CondVar
import Kawin.Base.Crew
import Kawin.Base.Provenance
import Kawin.Base.SharedMutex
import Kawin.Base.BoundedFifo
import Kawin.Base.LossyQueue
import Kawin.Base.Subscriptions
import Kawin.Base.Json
import Kawin.Base.JsonRoundTrip
import Kawin.Base.References
import Kawin.Base.HeapTrace
import Kawin.Base.Wtf8
import Kawin.Base.ReusedBuffer
import Kawin.Driver.Dispatcher
import Kawin.Driver.SlotHeader
import Kawin.Driver.RingGeometry
import Kawin.Driver.RingInvariant
import Kawin.Driver.RingCalls
import Kawin.Driver.RingDrain
import Kawin.Driver.RingTermination
import Kawin.Driver.RingMachine
import Kawin.Driver.RingSchedule
import Kawin.Driver.RingProgress
import Kawin.Driver.WorkerProgress
import Kawin.Driver.UnloadProgress
import Kawin.Driver.Interleaving
import Kawin.Driver.ClaimTiling
import Kawin.Driver.OrderlySteps
import Kawin.Driver.PatientSteps
import Kawin.Driver.ClaimedSlots
import Kawin.Driver.PoisonRecovery
import Kawin.Driver.LateProducers
import Kawin.Driver.DispatcherMachine
import Kawin.Driver.SendTimeouts
import Kawin.Driver.PortLifetime
import Kawin.Driver.Unload
import Kawin.Driver.Registration
import Kawin.Driver.DriverLoad
import Kawin.Driver.Accounting
import Kawin.Driver.RingContents
import Kawin.Driver.SentMessages
import Kawin.Driver.EnqueuedEvents
import Kawin.Driver.UnicodeString
import Kawin.Driver.FileCallbacks
import Kawin.Driver.HandleTrace
import Kawin.Driver.ContextReferences
import Kawin.Driver.ProcessCache
import Kawin.Driver.CacheReferences
import Kawin.Driver.CacheMap
import Kawin.Driver.RuleTable
import Kawin.Driver.RuleList
import Kawin.Driver.RuleLifetime
import Kawin.Driver.AllowCount
import Kawin.Driver.RuleStorage
import Kawin.Driver.RuleParsing
import Kawin.Driver.FileClassification
import Kawin.Driver.StreamContext
import Kawin.Driver.EventSerializers
import Kawin.Driver.PoolBuffer
import Kawin.Driver.Serializer
import Kawin.Driver.Occurrences
import Kawin.Driver.ProcessNotify
import Kawin.Kasvc.MessageParser
import Kawin.Kasvc.ParserBounds
import Kawin.Kasvc.RoundTrip
import Kawin.Kasvc.EventPublisher
import Kawin.Kasvc.EventTime
import Kawin.Kasvc.SubscriberFanOut
import Kawin.Kasvc.FanOutLaw
import Kawin.Kasvc.StreamMachine
import Kawin.Kasvc.StreamLifetime
import Kawin.Kasvc.ConfigStore
import Kawin.Kasvc.ConfigDefaults
import Kawin.Kasvc.ConfigNumbers
import Kawin.Kasvc.ConfigWatcher
import Kawin.Kasvc.ThreadSafeQueue
import Kawin.Kasvc.QueueWakeups
import Kawin.Kasvc.ReceivePath
import Kawin.Kasvc.Conversions
import Kawin.Kasvc.FilterPort
import Kawin.Kasvc.MonitoringService
import Kawin.Kasvc.EventLoops
import Kawin.Kasvc.LoopAccounting
import Kawin.Kasvc.CompletionPort
import Kawin.Kasvc.ReceiveOnce
import Kawin.Kasvc.ReceiverMachine
import Kawin.Kasvc.ReceiverLifetime
import Kawin.Kasvc.ReceiverRefinement
import Kawin.Kasvc.ReceiverShutdown
import Kawin.Svc.FilterMessage
import Kawin.Svc.ReaderBuffer
import Kawin.Svc.MessageSizes
import Kawin.Svc.ServiceLifecycle
import Kawin.Svc.ServiceMachine
import Kawin.Svc.ServiceAccounting
import Kawin.Svc.ServiceShutdown
import Kawin.Svc.MessageFlow
import Kawin.EndToEnd.Delivery
