import PodTail.Json.Shape

/-!
# What is said about any thing

The shapes of what the API server says about any thing it keeps, of selectors of such things, and of
references to them. Each member may be missing or null, and members without a name here are passed
over. A quantity is a text.
-/

set_option autoImplicit false

namespace PodTail

namespace Api

namespace Schema

open Json (Shape)

/-- Members of one shape. -/
def each (s : Shape) (keys : List String) : List (String × Shape) :=
  keys.map (·, s)

/-- Quantities under any keys. -/
def quantities : Shape := .textTable

/-! ## What is said about a thing -/

/-- A thing that another belongs to. -/
def ownerReference : Shape :=
  .loose "OwnerReference" <|
    each .text ["apiVersion", "kind", "name", "uid"]
      ++ each .flag ["blockOwnerDeletion", "controller"]

/-- Who manages which members of a thing. -/
def managedFields : Shape :=
  .loose "ManagedFieldsEntry" <|
    each .text ["apiVersion", "fieldsType", "manager", "operation", "subresource"]
      ++ [("fieldsV1", .any), ("time", .instant)]

/-- What is said about a thing. -/
def metadata : Shape :=
  .loose "ObjectMeta" <|
    each .text ["generateName", "name", "namespace", "resourceVersion", "selfLink", "uid"]
      ++ each .textTable ["annotations", "labels"]
      ++ each .int64 ["deletionGracePeriodSeconds", "generation"]
      ++ each .instant ["creationTimestamp", "deletionTimestamp"]
      ++ [("finalizers", .texts), ("managedFields", .list managedFields),
        ("ownerReferences", .list ownerReference)]

/-- What is said about a list of things. -/
def listMetadata : Shape :=
  .loose "ListMeta" <|
    each .text ["continue", "resourceVersion", "selfLink"] ++ [("remainingItemCount", .int64)]

/-! ## Selectors -/

/-- A term of a selector of things by their labels. -/
def labelRequirement : Shape :=
  .loose "LabelSelectorRequirement" <|
    each .text ["key", "operator"] ++ [("values", .texts)]

/-- A selector of things by their labels. -/
def labelSelector : Shape :=
  .loose "LabelSelector"
    [("matchExpressions", .list labelRequirement), ("matchLabels", .textTable)]

/-! ## References -/

/-- The name of another thing in the namespace. -/
def localReference : Shape :=
  .loose "LocalObjectReference" (each .text ["name"])

/-- A member of the pod itself. -/
def fieldSelector : Shape :=
  .loose "ObjectFieldSelector" (each .text ["apiVersion", "fieldPath"])

/-- A resource of a container. -/
def resourceFieldSelector : Shape :=
  .loose "ResourceFieldSelector" (each .text ["containerName", "divisor", "resource"])

/-- A key that becomes a file. -/
def keyToPath : Shape :=
  .loose "KeyToPath" (each .text ["key", "path"] ++ [("mode", .int32)])

end Schema

end Api

end PodTail
