/-!
# Kinds of command

Every exchange with the firmware is one of thirteen kinds. The kind is what an exchange is known by
once its content no longer matters: in the ledger, in completions and in the metrics.
-/

namespace NanHost

/-- What a command asks the firmware to do. -/
inductive CommandKind where
  | capabilities
  | configure
  | disable
  | publish
  | subscribe
  | sendMessage
  | stopPublish
  | stopSubscribe
  | createInterface
  | deleteInterface
  | initiateDataPath
  | respondDataPath
  | endDataPath
  deriving DecidableEq

namespace CommandKind

/-- The word that stands for the kind in texts and metric labels. -/
def label : CommandKind → String
  | capabilities => "capabilities"
  | configure => "configure"
  | disable => "disable"
  | publish => "publish"
  | subscribe => "subscribe"
  | sendMessage => "send_message"
  | stopPublish => "stop_publish"
  | stopSubscribe => "stop_subscribe"
  | createInterface => "create_iface"
  | deleteInterface => "delete_iface"
  | initiateDataPath => "initiate_data_path"
  | respondDataPath => "respond_data_path"
  | endDataPath => "end_data_path"

instance : ToString CommandKind := ⟨label⟩

/-- Every kind, in the order of declaration. -/
def all : List CommandKind :=
  [capabilities, configure, disable, publish, subscribe, sendMessage, stopPublish, stopSubscribe,
    createInterface, deleteInterface, initiateDataPath, respondDataPath, endDataPath]

end CommandKind

end NanHost
