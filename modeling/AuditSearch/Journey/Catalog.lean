import AuditSearch.Journey.Fields

/-!
# The catalog

The queries for the steps of a user's journey. An entry is data: a name, a title and the clauses
of its query. It is written with any registry, so that the sources of fields can be changed
without changing the queries.
-/

namespace AuditSearch.Journey

open Audit Output Query Report

structure Entry where
  /-- Selects the entry. -/
  name : String
  title : String
  /-- What the entry adds to a query for the common fields. -/
  clauses : List Clause
deriving DecidableEq

namespace Entry

def query (entry : Entry) (index : String) (registry : Registry) : Query :=
  (Journey.query index registry).addAll entry.clauses

def render (entry : Entry) (index : String) (registry : Registry) : Except QueryError String :=
  (entry.query index registry).render

/-- Writes the query under the title of the entry. -/
def describe (entry : Entry) (index : String) (registry : Registry) : Traced Titled :=
  Titled.mk entry.title <$> (entry.query index registry).trace

/-- The entry as it is shown in diagnostics. Names and titles hold nothing that needs an escape. -/
def diagnostic (entry : Entry) : String :=
  "NamedQuery \x7b name: " ++ Expression.literal entry.name ++
    ", title: " ++ Expression.literal entry.title ++ " \x7d"

end Entry

/-- The index that is searched when none is configured. -/
def defaultIndex : String := "federated:rh_rhtap_stage_audit"

/-- Matches requests that people made or that were made for them. -/
def humanUser : String :=
  "(\"impersonatedUser.username\"=\"*\" OR " ++
    "(user.username=\"*\" AND NOT user.username=\"system:*\"))"

/-- Matches the runs of build pipelines. -/
def buildPipeline : String :=
  Expression.assign
    (Expression.literal "responseObject.metadata.labels.pipelines.appstudio.openshift.io/type")
    "build"

/-- Matches successful creations. -/
def created (what : String) : String :=
  "verb=create \"responseStatus.code\" IN (200, 201) " ++
    "\"responseObject.metadata.resourceVersion\"=\"*\" " ++ what

/-- Matches successful updates of a status in which the field `mark` has been set. -/
def statusUpdate (what : List String) (mark : String) : String :=
  " ".intercalate
    (["verb=update", "\"responseStatus.code\"=200",
      "\"objectRef.subresource\"=\"status\""] ++ what ++
      [Expression.assign (Expression.literal ("responseObject.status." ++ mark)) "\"*\""])

/-- What a build pipeline run tells about itself. -/
def buildFields : List String :=
  ["application", "commit_sha", "component", "git_trigger_event_type", "git_trigger_provider",
    "name", "pipeline_log_url", "repo", "target_branch"]

/-- The end of something that can fail: its event depends on the status of `condition`. -/
def ending (condition : StatusCondition) (success failure : String) : List Clause :=
  [.filter condition.filter,
    .event ("if(" ++ condition.reading (StatusCondition.part "status") ++ "=\"True\"," ++
      Expression.literal success ++ "," ++ Expression.literal failure ++ ")")]

def application : Entry where
  name := "application"
  title := "Application events"
  clauses :=
    [.api applications, .predicate (created humanUser), .fields ["application", "name", "userId"]]

def component : Entry where
  name := "component"
  title := "Component events"
  clauses :=
    [.api components, .predicate (created humanUser),
      .fields ["application", "component", "name", "src_context", "src_revision", "src_url",
        "userId"]]

def buildCreated : Entry where
  name := "build-pipelinerun-created"
  title := "Build PipelineRun creation events"
  clauses :=
    [.api pipelineRuns, .predicate (created buildPipeline),
      .event (Expression.literal "Build PipelineRun created"), .fields buildFields]

def buildStarted : Entry where
  name := "build-pipelinerun-started"
  title := "Build PipelineRun started events"
  clauses :=
    [.api pipelineRuns, .predicate (statusUpdate [buildPipeline] "startTime"),
      .filter (StatusCondition.filter
        { kind := "Succeeded", reasons := ["Running"], message := some "Tasks Completed: 0 %" }),
      .event (Expression.literal "Build PipelineRun started"), .fields buildFields]

/-- The result of a task that holds what a scan by Clair found. -/
def scanResult : TaskResult := { name := "CLAIR_SCAN_RESULT" }

def scanCompleted : Entry where
  name := "clair-scan-completed"
  title := "Clair scan TaskRun completion events"
  clauses :=
    [.api taskRuns,
      .predicate (statusUpdate
        [Expression.assign
          (Expression.literal "responseObject.metadata.labels.tekton.dev/pipelineTask")
          (Expression.literal "clair-scan")] "completionTime"),
      .filter (StatusCondition.filter { kind := "Succeeded", statuses := ["True"] }),
      .filter scanResult.filter,
      .commands
        ["eval " ++ Expression.assign "clair_scan_result_json" scanResult.value,
          "spath input=clair_scan_result_json",
          "rename vulnerabilities.* AS clair_scan_result.vulnerabilities.*"],
      .event (Expression.literal "Clair scan TaskRun completed"),
      .fields ["application", "component", "name", "vulnerabilities_critical",
        "vulnerabilities_high", "vulnerabilities_low", "vulnerabilities_medium"]]

def buildCompleted : Entry where
  name := "build-pipelinerun-completed"
  title := "Build PipelineRun Completed or Failed event"
  clauses :=
    [.api pipelineRuns, .predicate (statusUpdate [buildPipeline] "completionTime")] ++
    ending { kind := "Succeeded", statuses := ["True", "False"] }
      "Build PipelineRun completed" "Build PipelineRun failed" ++
    [.fields buildFields, .fields ["status_message", "status_reason"]]

def releaseCompleted : Entry where
  name := "release-completed"
  title := "Release Succeeded or Failed events"
  clauses :=
    [.api releases, .predicate (statusUpdate [] "completionTime")] ++
    ending { kind := "Released", statuses := ["True", "False"] }
      "Release succeeded" "Release failed" ++
    [.fields ["application", "name", "status_message", "status_reason"]]

def catalog : List Entry :=
  [application, component, buildCreated, buildStarted, scanCompleted, buildCompleted,
    releaseCompleted]

/-- The entry of that name. -/
def find? (name : String) : Option Entry :=
  catalog.find? (·.name = name)

/-- Writes the entries in order, up to the first one that fails. -/
def describeAll (entries : List Entry) (index : String) (registry : Registry) :
    Traced (List Titled) :=
  entries.mapM (·.describe index registry)

/-- The entries of the catalog that `names` asks for, in the order of the catalog. -/
def select (names : List String) : List Entry :=
  catalog.filter fun entry => names.contains entry.name

end AuditSearch.Journey
