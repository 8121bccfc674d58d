import PodTail.Api.Schema.Container
import PodTail.Api.Schema.Volume

/-!
# Pods

The shape of a pod as the API server writes it, and of a list of pods.
-/

set_option autoImplicit false

namespace PodTail

namespace Api

namespace Schema

open Json (Shape)

/-! ## Where a pod may run -/

/-- A term of a selector of nodes. -/
def nodeTerm : Shape :=
  let requirement := Shape.loose "NodeSelectorRequirement" <|
    each .text ["key", "operator"] ++ [("values", .texts)]
  .loose "NodeSelectorTerm" (each (.list requirement) ["matchExpressions", "matchFields"])

/-- A term of a selector of the neighbours of a pod. -/
def podTerm : Shape :=
  .loose "PodAffinityTerm" <|
    each labelSelector ["labelSelector", "namespaceSelector"]
      ++ each .texts ["matchLabelKeys", "mismatchLabelKeys", "namespaces"]
      ++ [("topologyKey", .text)]

/-- What is preferred, and what is required, where a pod is placed. -/
def placement (name : String) (preferred required : Shape) : Shape :=
  .loose name
    [("preferredDuringSchedulingIgnoredDuringExecution", .list preferred),
      ("requiredDuringSchedulingIgnoredDuringExecution", required)]

/-- Where a pod may run. -/
def affinity : Shape :=
  let weighted := Shape.loose "WeightedPodAffinityTerm"
    [("podAffinityTerm", podTerm), ("weight", .int32)]
  .loose "Affinity"
    [("nodeAffinity", placement "NodeAffinity"
        (.loose "PreferredSchedulingTerm" [("preference", nodeTerm), ("weight", .int32)])
        (.loose "NodeSelector" [("nodeSelectorTerms", .list nodeTerm)])),
      ("podAffinity", placement "PodAffinity" weighted (.list podTerm)),
      ("podAntiAffinity", placement "PodAntiAffinity" weighted (.list podTerm))]

/-- What a pod bears with of a node. -/
def toleration : Shape :=
  .loose "Toleration" <|
    each .text ["effect", "key", "operator", "value"] ++ [("tolerationSeconds", .int64)]

/-- How pods are spread. -/
def spread : Shape :=
  .loose "TopologySpreadConstraint" <|
    each .text ["nodeAffinityPolicy", "nodeTaintsPolicy", "topologyKey", "whenUnsatisfiable"]
      ++ each .int32 ["maxSkew", "minDomains"]
      ++ [("labelSelector", labelSelector), ("matchLabelKeys", .texts)]

/-! ## What a pod is -/

/-- How a pod finds addresses. -/
def dnsConfig : Shape :=
  .loose "PodDNSConfig"
    [("nameservers", .texts),
      ("options", .list (.loose "PodDNSConfigOption" (each .text ["name", "value"]))),
      ("searches", .texts)]

/-- What a pod may do. -/
def podSecurity : Shape :=
  .loose "PodSecurityContext" <|
    each .int64 ["fsGroup", "runAsGroup", "runAsUser"]
      ++ each .text ["fsGroupChangePolicy", "supplementalGroupsPolicy"]
      ++ [("appArmorProfile", profile "AppArmorProfile"), ("runAsNonRoot", .flag),
        ("seLinuxOptions", seLinux), ("seccompProfile", profile "SeccompProfile"),
        ("supplementalGroups", .list .int64),
        ("sysctls", .list (.loose "Sysctl" (each .text ["name", "value"]))),
        ("windowsOptions", windowsOptions)]

/-- What a pod is. -/
def podSpec : Shape :=
  .loose "PodSpec" <|
    each .text ["dnsPolicy", "hostname", "nodeName", "preemptionPolicy", "priorityClassName",
        "restartPolicy", "runtimeClassName", "schedulerName", "serviceAccount",
        "serviceAccountName", "subdomain"]
      ++ each .flag ["automountServiceAccountToken", "enableServiceLinks", "hostIPC", "hostNetwork",
        "hostPID", "hostUsers", "setHostnameAsFQDN", "shareProcessNamespace"]
      ++ each .int64 ["activeDeadlineSeconds", "terminationGracePeriodSeconds"]
      ++ each (.list container) ["containers", "initContainers"]
      ++ [("affinity", affinity), ("dnsConfig", dnsConfig),
        ("ephemeralContainers", .list ephemeralContainer),
        ("hostAliases", .list (.loose "HostAlias" [("hostnames", .texts), ("ip", .text)])),
        ("imagePullSecrets", .list localReference), ("nodeSelector", .textTable),
        ("os", .loose "PodOS" [("name", .text)]), ("overhead", quantities), ("priority", .int32),
        ("readinessGates", .list (.loose "PodReadinessGate" [("conditionType", .text)])),
        ("resourceClaims", .list (.loose "PodResourceClaim" <|
          each .text ["name", "resourceClaimName", "resourceClaimTemplateName"])),
        ("schedulingGates", .list (.loose "PodSchedulingGate" [("name", .text)])),
        ("securityContext", podSecurity), ("tolerations", .list toleration),
        ("topologySpreadConstraints", .list spread), ("volumes", .list volume)]

/-! ## What has become of a pod -/

/-- What holds of a pod. -/
def podCondition : Shape :=
  .loose "PodCondition" <|
    each .text ["message", "reason", "status", "type"]
      ++ each .instant ["lastProbeTime", "lastTransitionTime"]

/-- What has become of a pod. -/
def podStatus : Shape :=
  .loose "PodStatus" <|
    each .text ["hostIP", "message", "nominatedNodeName", "phase", "podIP", "qosClass", "reason",
        "resize"]
      ++ each (.list containerStatus)
        ["containerStatuses", "ephemeralContainerStatuses", "initContainerStatuses"]
      ++ [("conditions", .list podCondition),
        ("hostIPs", .list (.loose "HostIP" [("ip", .text)])),
        ("podIPs", .list (.loose "PodIP" [("ip", .text)])),
        ("resourceClaimStatuses", .list (.loose "PodResourceClaimStatus" <|
          each .text ["name", "resourceClaimName"])),
        ("startTime", .instant)]

/-! ## Whole documents -/

/-- A pod. What it says about its own kind must be right where it says it. -/
def pod : Shape :=
  .record (.loose "Pod")
    [("apiVersion", .scalar (.word "v1")), ("kind", .scalar (.word "Pod")),
      ("metadata", .optional metadata), ("spec", .optional podSpec),
      ("status", .optional podStatus)]

/-- A list of pods. It may say anything of its own kind. -/
def podList : Shape :=
  .record (.strict "struct ObjectList" ["items"])
    [("items", .optional (.list pod)), ("metadata", listMetadata)]

/-- The members of a report on a refused request. -/
def report : Shape :=
  .record (.loose "struct ErrorResponse") (each .any ["status", "message", "reason", "code"])

end Schema

end Api

end PodTail
