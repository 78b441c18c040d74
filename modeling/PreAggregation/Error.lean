import PreAggregation.Subtask
import PreAggregation.Text.Quoted
import PreAggregation.Text.Utf8
import PreAggregation.Threshold

/-!
# Errors

An error is a chain of causes, the outermost first.  The faults of the stage itself
keep their kind wherever they stand in the chain, so an error is classified by the
outermost of them.
-/

namespace PreAggregation

/-- Which half of an aggregation failed. -/
inductive CombinePhase
  | addInput
  | collect
  deriving DecidableEq, Repr

/-- The name of the phase. -/
def CombinePhase.name : CombinePhase → String
  | .addInput => "add_input"
  | .collect => "collect"

/-- Why a stage cannot be built. -/
inductive ConfigFault
  | zeroCount
  /-- The count threshold does not fit a signed word. -/
  | countTooLarge (count : Nat)
  | zeroTime
  | emptyWindow
  | blankTopic
  | unknownStrategy (name : String)
  /-- The text is not the JSON of a configuration. -/
  | malformed
  /-- Any other reason, in words. -/
  | custom (reason : String)
  deriving DecidableEq, Repr

/-- One line about the fault. -/
def ConfigFault.message : ConfigFault → String
  | .zeroCount => "pre-aggregation count must be greater than 0"
  | .countTooLarge count => s!"pre-aggregation count {count} exceeds {Threshold.greatest}"
  | .zeroTime => "pre-aggregation time threshold must be greater than 0ms"
  | .emptyWindow => "histogram window must hold at least one sample"
  | .blankTopic => "control topic must not be empty"
  | .unknownStrategy name =>
      s!"unknown pre-aggregate strategy '{name}', expected GLOBAL, LOCAL or PER_KEY"
  | .malformed => "malformed config"
  | .custom reason => reason

/-- The faults of the stage and its control plane. -/
inductive StageFault
  /-- The stage cannot be built. -/
  | configuration (fault : ConfigFault)
  | combine (phase : CombinePhase)
  /-- The control channel did not take a subscription. -/
  | controlChannel (topic : String)
  /-- A control payload is no signed number. -/
  | invalidAdjustment (payload : String)
  deriving DecidableEq, Repr

/-- One line about the fault. -/
def StageFault.message : StageFault → String
  | .configuration fault => "invalid pre-aggregate configuration: " ++ fault.message
  | .combine phase => "combine function failed in " ++ phase.name
  | .controlChannel topic => s!"control channel unavailable for topic '{topic}'"
  | .invalidAdjustment payload => "invalid adjustment payload " ++ Text.Quoted.encode payload

/-- Why bytes could not be moved between two ends of a connection. -/
inductive TransportFault
  /-- The bytes ended inside what was read. -/
  | endOfStream
  | invalidAddress
  | unknownHost
  | timedOut
  /-- Nobody listens at the address. -/
  | refused
  deriving DecidableEq, Repr

/-- The name of the fault. -/
def TransportFault.name : TransportFault → String
  | .endOfStream => "UnexpectedEof"
  | .invalidAddress => "InvalidInput"
  | .unknownHost => "Uncategorized"
  | .timedOut => "WouldBlock"
  | .refused => "ConnectionRefused"

/-- Why a control frame cannot be written or read. -/
inductive FrameFault
  /-- The topic has more bytes than its length field can say. -/
  | topicTooLong (length : Nat)
  | tooLarge (length : Nat)
  /-- The body ends before its topic length. -/
  | bodyTooShort (length : Nat)
  | unknownType (number : Nat)
  | topicTruncated (needed length : Nat)
  | topicNotText (fault : Text.Utf8.Fault)
  deriving DecidableEq, Repr

/-- One line about the fault. -/
def FrameFault.message : FrameFault → String
  | .topicTooLong length => s!"control topic too long: {length} bytes"
  | .tooLarge length => s!"control frame too large: {length} bytes"
  | .bodyTooShort length => s!"control frame body too short: {length}"
  | .unknownType number => s!"unknown control frame type: {number}"
  | .topicTruncated needed length =>
      s!"control frame topic truncated: need {needed} bytes, have {length}"
  | .topicNotText fault => "control frame topic is not utf-8: " ++ fault.message

/-- Why an element cannot pass a channel. -/
inductive ChannelFault
  | receiverGone
  /-- Every sender is gone and nothing is left. -/
  | sendersGone
  /-- There is no room and the sender does not wait. -/
  | full
  /-- The receiver is gone and the sender does not wait. -/
  | disconnected
  deriving DecidableEq, Repr

/-- One line about the fault. -/
def ChannelFault.message : ChannelFault → String
  | .receiverGone => "channel closed: receiver dropped"
  | .sendersGone => "channel closed: sender dropped"
  | .full => "failed to send: sending on a full channel"
  | .disconnected => "failed to send: sending on a disconnected channel"

/-- The part of its life in which a task failed. -/
inductive TaskPhase
  | opening
  | running
  | closing
  deriving DecidableEq, Repr

/-- One link in the chain of an error. -/
inductive Cause
  | stage (fault : StageFault)
  | transport (fault : TransportFault)
  | frame (fault : FrameFault)
  | channel (fault : ChannelFault)
  /-- Nothing more can arrive on a control subscription. -/
  | subscriptionClosed (topic : String)
  /-- The control broker did not confirm a subscription. -/
  | noAcknowledgement
  /-- The address of the control broker has no meaning. -/
  | unresolvedBroker (address : String)
  /-- The control broker does not answer. -/
  | unreachableBroker (address : String)
  | task (phase : TaskPhase) (subtask : Subtask)
  | noTasks
  | unreadableFile (path : String)
  /-- A cause in words, such as those of an aggregation. -/
  | custom (reason : String)
  deriving DecidableEq, Repr

/-- One line about the cause. -/
def Cause.message : Cause → String
  | .stage fault => fault.message
  | .transport fault => fault.name
  | .frame fault => fault.message
  | .channel fault => fault.message
  | .subscriptionClosed topic => s!"control subscription '{topic}' closed"
  | .noAcknowledgement => "no subscription acknowledgement from control broker"
  | .unresolvedBroker address => s!"cannot resolve control broker '{address}'"
  | .unreachableBroker address => s!"connect to control broker '{address}' failed"
  | .task .opening subtask => "failed to open " ++ subtask.label
  | .task .running subtask => s!"task {subtask.label} failed"
  | .task .closing subtask => "failed to close " ++ subtask.label
  | .noTasks => "parallelism must be at least 1"
  | .unreadableFile path => "cannot read " ++ path
  | .custom reason => reason

/-- The fault of the stage that a cause is. -/
def Cause.fault? : Cause → Option StageFault
  | .stage fault => some fault
  | _ => none

/-- A chain of causes. -/
structure Error where
  /-- The outermost cause. -/
  outermost : Cause
  /-- The causes beneath it, down to the root. -/
  beneath : List Cause := []
  deriving DecidableEq, Repr

namespace Error

/-- All causes, the outermost first. -/
def chain (error : Error) : List Cause :=
  error.outermost :: error.beneath

/-- The cause at the bottom of the chain. -/
def root (error : Error) : Cause :=
  error.beneath.getLastD error.outermost

/-- The error with one more cause around it. -/
def within (error : Error) (cause : Cause) : Error :=
  ⟨cause, error.chain⟩

/-- All causes in one line. -/
def message (error : Error) : String :=
  ": ".intercalate (error.chain.map Cause.message)

/-- The outermost fault of the stage in the chain. -/
def fault? (error : Error) : Option StageFault :=
  error.chain.findSome? Cause.fault?

@[simp] theorem chain_within (error : Error) (cause : Cause) :
    (error.within cause).chain = cause :: error.chain := rfl

/-- A fault of the stage put around an error classifies it. -/
@[simp] theorem fault?_within_stage (error : Error) (fault : StageFault) :
    (error.within (.stage fault)).fault? = some fault := rfl

end Error
end PreAggregation
