import PodTail.Api.Schema.Metadata

/-!
# Containers

The shapes of the containers of a pod, and of what has become of them.
-/

set_option autoImplicit false

namespace PodTail

namespace Api

namespace Schema

open Json (Shape)

/-! ## The environment -/

/-- Where the value of a variable comes from. -/
def variableSource : Shape :=
  let keyOf := fun (name : String) =>
    Shape.loose name (each .text ["key", "name"] ++ [("optional", .flag)])
  .loose "EnvVarSource"
    [("configMapKeyRef", keyOf "ConfigMapKeySelector"), ("fieldRef", fieldSelector),
      ("resourceFieldRef", resourceFieldSelector), ("secretKeyRef", keyOf "SecretKeySelector")]

/-- A variable. -/
def environmentVariable : Shape :=
  .loose "EnvVar" [("name", .text), ("value", .text), ("valueFrom", variableSource)]

/-- Where several variables come from. -/
def variablesSource : Shape :=
  let all := fun (name : String) => Shape.loose name [("name", .text), ("optional", .flag)]
  .loose "EnvFromSource"
    [("configMapRef", all "ConfigMapEnvSource"), ("prefix", .text),
      ("secretRef", all "SecretEnvSource")]

/-! ## What is done to a container -/

/-- A command. -/
def execAction : Shape :=
  .loose "ExecAction" [("command", .texts)]

/-- A request. -/
def httpAction : Shape :=
  .loose "HTTPGetAction"
    [("host", .text), ("httpHeaders", .list (.loose "HTTPHeader" (each .text ["name", "value"]))),
      ("path", .text), ("port", .int32OrText), ("scheme", .text)]

/-- A connection. -/
def tcpAction : Shape :=
  .loose "TCPSocketAction" [("host", .text), ("port", .int32OrText)]

/-- What is done at a turn of a container's life. -/
def handler : Shape :=
  .loose "LifecycleHandler"
    [("exec", execAction), ("httpGet", httpAction),
      ("sleep", .loose "SleepAction" [("seconds", .int64)]), ("tcpSocket", tcpAction)]

/-- What is done to learn how a container does. -/
def probe : Shape :=
  .loose "Probe" <|
    each .int32 ["failureThreshold", "initialDelaySeconds", "periodSeconds", "successThreshold",
        "timeoutSeconds"]
      ++ [("exec", execAction), ("grpc", .loose "GRPCAction" [("port", .int32), ("service", .text)]),
        ("httpGet", httpAction), ("tcpSocket", tcpAction),
        ("terminationGracePeriodSeconds", .int64)]

/-! ## What a container may do -/

/-- Labels of the security module. -/
def seLinux : Shape :=
  .loose "SELinuxOptions" (each .text ["level", "role", "type", "user"])

/-- A profile by its place. -/
def profile (name : String) : Shape :=
  .loose name (each .text ["localhostProfile", "type"])

/-- What is particular to one system. -/
def windowsOptions : Shape :=
  .loose "WindowsSecurityContextOptions" <|
    each .text ["gmsaCredentialSpec", "gmsaCredentialSpecName", "runAsUserName"]
      ++ [("hostProcess", .flag)]

/-- What a container may do. -/
def containerSecurity : Shape :=
  .loose "SecurityContext" <|
    each .flag ["allowPrivilegeEscalation", "privileged", "readOnlyRootFilesystem", "runAsNonRoot"]
      ++ each .int64 ["runAsGroup", "runAsUser"]
      ++ [("appArmorProfile", profile "AppArmorProfile"),
        ("capabilities", .loose "Capabilities" (each .texts ["add", "drop"])),
        ("procMount", .text), ("seLinuxOptions", seLinux),
        ("seccompProfile", profile "SeccompProfile"), ("windowsOptions", windowsOptions)]

/-- What a container may use. -/
def resources : Shape :=
  .loose "ResourceRequirements" <|
    each quantities ["limits", "requests"]
      ++ [("claims", .list (.loose "ResourceClaim" (each .text ["name", "request"])))]

/-! ## Containers -/

/-- The members of a container. -/
def containerMembers : List (String × Shape) :=
  each .text ["image", "imagePullPolicy", "name", "restartPolicy", "terminationMessagePath",
      "terminationMessagePolicy", "workingDir"]
    ++ each .texts ["args", "command"] ++ each .flag ["stdin", "stdinOnce", "tty"]
    ++ each probe ["livenessProbe", "readinessProbe", "startupProbe"]
    ++ [("env", .list environmentVariable), ("envFrom", .list variablesSource),
      ("lifecycle", .loose "Lifecycle" (each handler ["postStart", "preStop"])),
      ("ports", .list (.loose "ContainerPort" <|
        each .int32 ["containerPort", "hostPort"] ++ each .text ["hostIP", "name", "protocol"])),
      ("resizePolicy", .list (.loose "ContainerResizePolicy" <|
        each .text ["resourceName", "restartPolicy"])),
      ("resources", resources), ("securityContext", containerSecurity),
      ("volumeDevices", .list (.loose "VolumeDevice" (each .text ["devicePath", "name"]))),
      ("volumeMounts", .list (.loose "VolumeMount" <|
        each .text ["mountPath", "mountPropagation", "name", "recursiveReadOnly", "subPath",
            "subPathExpr"]
          ++ [("readOnly", .flag)]))]

/-- A container. -/
def container : Shape :=
  .loose "Container" containerMembers

/-- A container that joined later. -/
def ephemeralContainer : Shape :=
  .loose "EphemeralContainer" (("targetContainerName", .text) :: containerMembers)

/-! ## What has become of a container -/

/-- What a container does. -/
def containerState : Shape :=
  .loose "ContainerState"
    [("running", .loose "ContainerStateRunning" [("startedAt", .instant)]),
      ("terminated", .loose "ContainerStateTerminated" <|
        each .text ["containerID", "message", "reason"] ++ each .int32 ["exitCode", "signal"]
          ++ each .instant ["finishedAt", "startedAt"]),
      ("waiting", .loose "ContainerStateWaiting" (each .text ["message", "reason"]))]

/-- How the resources of a container do. -/
def resourceStatus : Shape :=
  .loose "ResourceStatus"
    [("name", .text),
      ("resources", .list (.loose "ResourceHealth" (each .text ["health", "resourceID"])))]

/-- What has become of a container. -/
def containerStatus : Shape :=
  .loose "ContainerStatus" <|
    each .text ["containerID", "image", "imageID", "name"] ++ each .flag ["ready", "started"]
      ++ each containerState ["lastState", "state"]
      ++ [("allocatedResources", quantities), ("allocatedResourcesStatus", .list resourceStatus),
        ("resources", resources), ("restartCount", .int32),
        ("user", .loose "ContainerUser"
          [("linux", .loose "LinuxContainerUser" <|
            each .int64 ["gid", "uid"] ++ [("supplementalGroups", .list .int64)])]),
        ("volumeMounts", .list (.loose "VolumeMountStatus" <|
          each .text ["mountPath", "name", "recursiveReadOnly"] ++ [("readOnly", .flag)]))]

end Schema

end Api

end PodTail
