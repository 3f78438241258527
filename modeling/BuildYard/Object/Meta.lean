import BuildYard.Label.Selector
import BuildYard.Object.Catalog
/-!
# Metadata of cluster objects

The fields of an object's metadata that the build yard sets or looks at have a place of their own;
the other fields that are set are carried along in normal form.
-/

namespace BuildYard

/-- The object that another object belongs to. -/
structure OwnerReference where
  apiVersion : String := ""
  kind : String := ""
  name : String := ""
  uid : String := ""
  controller : Option Bool := none
  blockOwnerDeletion : Option Bool := none
  deriving DecidableEq

/-- The metadata of a cluster object. -/
structure ObjectMeta where
  name : Option String := none
  namespace_ : Option String := none
  generateName : Option String := none
  labels : Option Labels := none
  annotations : Option (SortedMap String String) := none
  ownerReferences : Option (List OwnerReference) := none
  deletionTimestamp : Option Instant := none
  /-- The other fields that are set. -/
  others : Json.Fields := []

namespace OwnerReference

/-- Reads an owner reference. -/
def ofJson? (j : Json) : Option OwnerReference := do
  let fields ← j.asFields?
  return {
    apiVersion := ← Json.required Json.asText? "" fields "apiVersion"
    kind := ← Json.required Json.asText? "" fields "kind"
    name := ← Json.required Json.asText? "" fields "name"
    uid := ← Json.required Json.asText? "" fields "uid"
    controller := ← Json.optional Json.asBool? fields "controller"
    blockOwnerDeletion := ← Json.optional Json.asBool? fields "blockOwnerDeletion" }

/-- Writes an owner reference. -/
def toJson (o : OwnerReference) : Json :=
  Json.ofSet [
    ("apiVersion", some (.str o.apiVersion)),
    ("kind", some (.str o.kind)),
    ("name", some (.str o.name)),
    ("uid", some (.str o.uid)),
    ("controller", o.controller.map .bool),
    ("blockOwnerDeletion", o.blockOwnerDeletion.map .bool)] []

end OwnerReference

/-- Reads an instant. -/
def Instant.ofJson? (j : Json) : Option Instant := do Instant.ofText? (← j.asText?)

namespace ObjectMeta

/-- The fields with a place of their own. -/
def known : List String :=
  ["name", "namespace", "generateName", "labels", "annotations", "ownerReferences",
    "deletionTimestamp"]

/-- Reads metadata. -/
def ofJson? (j : Json) : Option ObjectMeta := do
  let fields ← j.asFields?
  return {
    name := ← Json.optional Json.asText? fields "name"
    namespace_ := ← Json.optional Json.asText? fields "namespace"
    generateName := ← Json.optional Json.asText? fields "generateName"
    labels := ← Json.optional Json.asTextMap? fields "labels"
    annotations := ← Json.optional Json.asTextMap? fields "annotations"
    ownerReferences :=
      ← Json.optional (Json.asList? OwnerReference.ofJson?) fields "ownerReferences"
    deletionTimestamp := ← Json.optional Instant.ofJson? fields "deletionTimestamp"
    others := ← Shape.objectMeta.others? known fields }

/-- Writes metadata. -/
def toJson (m : ObjectMeta) : Json :=
  Json.ofSet [
    ("name", m.name.map .str),
    ("namespace", m.namespace_.map .str),
    ("generateName", m.generateName.map .str),
    ("labels", m.labels.map Json.ofTextMap),
    ("annotations", m.annotations.map Json.ofTextMap),
    ("ownerReferences", m.ownerReferences.map fun os => .arr (os.map OwnerReference.toJson)),
    ("deletionTimestamp", m.deletionTimestamp.map fun t => .str t.secondsText)] m.others

/-- What an object is called: its name, else the name it asks to have one generated from. -/
def anyName (m : ObjectMeta) : String := (m.name.or m.generateName).getD ""

/-- The labels, none if they are not set. -/
def labelMap (m : ObjectMeta) : Labels := m.labels.getD .empty

end ObjectMeta

/-! ## Whole objects -/

/-- The kinds of object, each with the version of the API it belongs to. -/
inductive ObjectKind where
  | pod
  | job
  | statefulSet
  | deployment
  | replicaSet
  | daemonSet
  deriving DecidableEq, Repr

namespace ObjectKind

/-- What a kind is called in objects. -/
def text : ObjectKind → String
  | .pod => "Pod"
  | .job => "Job"
  | .statefulSet => "StatefulSet"
  | .deployment => "Deployment"
  | .replicaSet => "ReplicaSet"
  | .daemonSet => "DaemonSet"

/-- The version of the API that a kind belongs to. -/
def apiVersion : ObjectKind → String
  | .pod => "v1"
  | .job => "batch/v1"
  | .statefulSet | .deployment | .replicaSet | .daemonSet => "apps/v1"

/-- What a collection of objects of a kind is called in requests. -/
def plural : ObjectKind → String
  | .pod => "pods"
  | .job => "jobs"
  | .statefulSet => "statefulsets"
  | .deployment => "deployments"
  | .replicaSet => "replicasets"
  | .daemonSet => "daemonsets"

/-- The fields of an object of a kind. -/
def fields? (kind : ObjectKind) (j : Json) : Option Json.Fields :=
  Json.fieldsOfKind? kind.apiVersion kind.text j

/-- The metadata among the fields of an object. -/
def metadata? (fields : Json.Fields) : Option ObjectMeta :=
  Json.required ObjectMeta.ofJson? {} fields "metadata"

end ObjectKind

end BuildYard
