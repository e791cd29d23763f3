import ClientFacade.Facade.Render
import ClientFacade.Settings.Basic

/-!
# Aggregation

A run extracts all sources, puts the facade together and renders it. Sources without a submodule
are skipped. If submodules collide on an identifier, a strict run fails and a lenient one reports
every collision. An aggregator may extract with a nesting and render with an indentation of its own.
-/

namespace ClientFacade

structure Aggregator where
  settings : Settings
  nesting : List Text
  indent : Text

namespace Aggregator

def ofSettings (settings : Settings) : Aggregator :=
  ⟨settings, settings.nesting, Line.defaultIndent⟩

inductive Fault
  | collision (groups : List NameGroup)
  | rejected (problems : List Problem)
  | template (fault : Template.Fault)
  deriving DecidableEq, Repr

def showGroup (group : NameGroup) : Text :=
  group.identifier ++ " <- " ++ Text.quotedList group.names

def Fault.message : Fault → Text
  | .collision groups =>
    "Sub-client identifier collision: " ++ Text.join ", " (groups.map showGroup)
  | .rejected problems => Text.join "\n" (problems.map Settings.problemLine)
  | .template fault => fault.message

def methodCount (extractions : List Extraction) : Nat :=
  (extractions.flatMap (·.methods)).length

def summary (extractions : List Extraction) (skipped : Nat) : Record :=
  .of .pipeline .info ("Extracted " ++ Text.ofNat (methodCount extractions) ++ " methods from " ++
    Text.ofNat extractions.length ++ " files (" ++ Text.ofNat skipped ++ " skipped)")

def extractions (aggregator : Aggregator) (sources : List Source) : List Extraction :=
  sources.filterMap (·.extraction? aggregator.nesting)

def extractionReports (aggregator : Aggregator) (sources : List Source) : List Record :=
  let found := aggregator.extractions sources
  sources.flatMap (·.reports aggregator.nesting) ++
    [summary found (sources.length - found.length)]

def extract {ε : Type} (aggregator : Aggregator) (sources : List Source) :
    Logged ε (List Extraction) :=
  ⟨aggregator.extractionReports sources, .ok (aggregator.extractions sources)⟩

def collisionReport (group : NameGroup) : Record :=
  .of .pipeline .warning ("Submodules " ++ Text.quotedList group.names ++
    " share the sub-client identifier " ++ group.identifier)

def collisions (extractions : List Extraction) : List NameGroup :=
  NameGroup.collisions (extractions.map (·.submodule))

def assemble [Machine] (aggregator : Aggregator) (extractions : List Extraction) :
    Except Fault Facade :=
  match aggregator.settings.facade extractions with
  | .valid facade => .ok facade
  | .problems found => .error (.rejected found)
  | .aborted fault => .error (.template fault)

def build [Machine] (aggregator : Aggregator) (extractions : List Extraction) :
    Logged Fault Facade :=
  let found := collisions extractions
  if found ≠ [] ∧ aggregator.settings.strict then Logged.fail (.collision found)
  else do
    Logged.write (found.map collisionReport)
    Logged.ofExcept (aggregator.assemble extractions)

def run [Runtime] (aggregator : Aggregator) (sources : List Source) : Logged Fault Text := do
  let extractions ← aggregator.extract sources
  let facade ← aggregator.build extractions
  (facade.generate aggregator.indent).mapError .template

end Aggregator

end ClientFacade
