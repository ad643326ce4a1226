import EventRelay.InputError

/-!
# Routing

An event names the service it comes from and the channel it came through.
-/

namespace EventRelay

/-- The services that events come from. -/
inductive Source where
  | actionExporter
  | addressResolution
  | caseService
  | contactCentreApi
  | fieldworkGateway
  | notifyGateway
  | receiptService
  | respondentHome
  | sampleLoader
  | integrationTests
  deriving DecidableEq

/-- The channels that events come through. -/
inductive Channel where
  | ad
  | ar
  | cc
  | eq
  | field
  | ppo
  | qm
  | rh
  | rm
  | ro
  deriving DecidableEq

namespace Source

/-- The sources in their fixed order. -/
def all : List Source :=
  [.actionExporter, .addressResolution, .caseService, .contactCentreApi,
    .fieldworkGateway, .notifyGateway, .receiptService, .respondentHome,
    .sampleLoader, .integrationTests]

/-- The name of a source in messages between systems. -/
def name : Source → String
  | .actionExporter => "ACTION_EXPORTER"
  | .addressResolution => "ADDRESS_RESOLUTION"
  | .caseService => "CASE_SERVICE"
  | .contactCentreApi => "CONTACT_CENTRE_API"
  | .fieldworkGateway => "FIELDWORK_GATEWAY"
  | .notifyGateway => "NOTIFY_GATEWAY"
  | .receiptService => "RECEIPT_SERVICE"
  | .respondentHome => "RESPONDENT_HOME"
  | .sampleLoader => "SAMPLE_LOADER"
  | .integrationTests => "INTEGRATION_TESTS"

/-- Reads a source by its name, which has to match to the letter. -/
def parse (given : String) : Except InputError Source :=
  findNamed "source" all name given

theorem mem_all (source : Source) : source ∈ all := by
  cases source <;> decide

end Source

namespace Channel

/-- The channels in their fixed order. -/
def all : List Channel :=
  [.ad, .ar, .cc, .eq, .field, .ppo, .qm, .rh, .rm, .ro]

/-- The name of a channel in messages between systems. -/
def name : Channel → String
  | .ad => "AD"
  | .ar => "AR"
  | .cc => "CC"
  | .eq => "EQ"
  | .field => "FIELD"
  | .ppo => "PPO"
  | .qm => "QM"
  | .rh => "RH"
  | .rm => "RM"
  | .ro => "RO"

/-- Reads a channel by its name, which has to match to the letter. -/
def parse (given : String) : Except InputError Channel :=
  findNamed "channel" all name given

theorem mem_all (channel : Channel) : channel ∈ all := by
  cases channel <;> decide

end Channel

end EventRelay
