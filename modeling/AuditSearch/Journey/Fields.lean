import AuditSearch.Query.Basic

/-!
# Fields of user journey events

The built-in rules that turn audit records of the Kubernetes API into events of a user's journey,
and the fields that every such event has.
-/

namespace AuditSearch.Journey

open Audit Output

/-- The object that holds the properties of an event. -/
def properties : String := "properties"

/-- The object that holds the context of an event. -/
def context : String := "context"

/-- The fields of every event. -/
def commonFields : List String :=
  ["apiGroup", "apiVersion", "event_subject", "event_verb", "kind", "messageId", "namespace",
    "timestamp", "type", "userAgent"]

def appStudio (resource : String) : GroupResource := ⟨"appstudio.redhat.com", resource⟩

def tekton (resource : String) : GroupResource := ⟨"tekton.dev", resource⟩

def applications : GroupResource := appStudio "applications"

def components : GroupResource := appStudio "components"

def releases : GroupResource := appStudio "releases"

def pipelineRuns : GroupResource := tekton "pipelineruns"

def taskRuns : GroupResource := tekton "taskruns"

/-- A label of the object that a request returns. -/
def labelField (name : String) : String :=
  "responseObject.metadata.labels." ++ name

/-- An annotation of the object that a request returns. -/
def annotationField (name : String) : String :=
  "responseObject.metadata.annotations." ++ name

/-- An annotation by the service that starts pipelines. -/
def pipelineField (name : String) : String :=
  annotationField ("pipelinesascode.tekton.dev/" ++ name)

/-- Reads a property of the event. -/
def property (sources : List String) : Rule :=
  (Rule.ofSources sources).inside properties

def applicationField : String := labelField "appstudio.openshift.io/application"

def repositoryField : String := annotationField "build.appstudio.openshift.io/repo"

/-- The rules for every API. -/
def schema : Schema :=
  .ofList
    [("messageId", .ofSources ["auditID"]),
      ("timestamp", .ofSources ["requestReceivedTimestamp"]),
      ("type", .ofExpression (Expression.literal "track")),
      ("userAgent", Rule.copy.inside context),
      ("userId", .ofSources ["impersonatedUser.username", "user.username"]),
      ("namespace", .ofSources ["objectRef.namespace"]),
      ("event_verb", .ofSources ["verb"]),
      ("event_subject", .ofSources ["objectRef.resource"]),
      ("apiGroup", property ["objectRef.apiGroup"]),
      ("apiVersion", property ["objectRef.apiVersion"]),
      ("kind", property ["objectRef.resource"]),
      ("name", property ["objectRef.name"]),
      ("src_url", property ["responseObject.spec.source.git.url"]),
      ("src_revision", property ["responseObject.spec.source.git.revision"]),
      ("src_context", property ["responseObject.spec.source.git.context"]),
      ("application", property ["responseObject.spec.application", applicationField]),
      ("component", property ["responseObject.spec.componentName",
        labelField "appstudio.openshift.io/component"]),
      ("commit_sha", property [annotationField "build.appstudio.redhat.com/commit_sha"]),
      ("repo", (property [repositoryField]).withExpression
        ("replace(" ++ Expression.fieldRef repositoryField ++ ",\"^([^?]*)(.*)?\",\"\\1\")")),
      ("target_branch", property [annotationField "build.appstudio.redhat.com/target_branch"]),
      ("git_trigger_event_type", property [pipelineField "event-type"]),
      ("git_trigger_provider", property [pipelineField "git-provider"]),
      ("pipeline_log_url", property [pipelineField "log-url"]),
      ("vulnerabilities_critical", property ["clair_scan_result.vulnerabilities.critical"]),
      ("vulnerabilities_high", property ["clair_scan_result.vulnerabilities.high"]),
      ("vulnerabilities_medium", property ["clair_scan_result.vulnerabilities.medium"]),
      ("vulnerabilities_low", property ["clair_scan_result.vulnerabilities.low"]),
      ("merge_url", property ["build_status.pac.merge-url"])]

/-- The built-in rules, with those of the APIs whose objects name themselves. -/
def registry : Registry :=
  (Registry.ofSchema schema).applyAll
    [.set applications (.ofList [("application", property ["objectRef.name"])]),
      .set components (.ofList
        [("component", property ["responseObject.spec.componentName", "objectRef.name"])]),
      .set releases (.ofList
        [("application", property [applicationField, "responseObject.spec.application"])])]

/-- A query for the fields that every event has. -/
def query (index : String) (registry : Registry) : Query :=
  (Query.start index registry).add (.fields commonFields)

/-- A query for the fields that every event has, in the built-in rules. -/
def builtinQuery (index : String) : Query :=
  query index registry

end AuditSearch.Journey
