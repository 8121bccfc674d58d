import PodTail.Api.Schema.Metadata

/-!
# Volumes

The shapes of the volumes of a pod, by where what they hold comes from.
-/

set_option autoImplicit false

namespace PodTail

namespace Api

namespace Schema

open Json (Shape)

/-! ## What the cluster keeps -/

/-- A file that says something about the pod. -/
def downwardFile : Shape :=
  .loose "DownwardAPIVolumeFile"
    [("fieldRef", fieldSelector), ("mode", .int32), ("path", .text),
      ("resourceFieldRef", resourceFieldSelector)]

/-- A source among several that make one volume. -/
def projection : Shape :=
  .loose "VolumeProjection"
    [("clusterTrustBundle", .loose "ClusterTrustBundleProjection" <|
        each .text ["name", "path", "signerName"]
          ++ [("labelSelector", labelSelector), ("optional", .flag)]),
      ("configMap", .loose "ConfigMapProjection"
        [("items", .list keyToPath), ("name", .text), ("optional", .flag)]),
      ("downwardAPI", .loose "DownwardAPIProjection" [("items", .list downwardFile)]),
      ("secret", .loose "SecretProjection"
        [("items", .list keyToPath), ("name", .text), ("optional", .flag)]),
      ("serviceAccountToken", .loose "ServiceAccountTokenProjection"
        [("audience", .text), ("expirationSeconds", .int64), ("path", .text)])]

/-- What a claim asks for. -/
def claimSpec : Shape :=
  .loose "PersistentVolumeClaimSpec" <|
    each .text ["storageClassName", "volumeAttributesClassName", "volumeMode", "volumeName"]
      ++ [("accessModes", .texts),
        ("dataSource", .loose "TypedLocalObjectReference" <|
          each .text ["apiGroup", "kind", "name"]),
        ("dataSourceRef", .loose "TypedObjectReference" <|
          each .text ["apiGroup", "kind", "name", "namespace"]),
        ("resources", .loose "VolumeResourceRequirements" (each quantities ["limits", "requests"])),
        ("selector", labelSelector)]

/-- The volumes of what the cluster keeps. -/
def keptSources : List (String × Shape) :=
  [("configMap", .loose "ConfigMapVolumeSource"
      [("defaultMode", .int32), ("items", .list keyToPath), ("name", .text), ("optional", .flag)]),
    ("downwardAPI", .loose "DownwardAPIVolumeSource"
      [("defaultMode", .int32), ("items", .list downwardFile)]),
    ("emptyDir", .loose "EmptyDirVolumeSource" (each .text ["medium", "sizeLimit"])),
    ("ephemeral", .loose "EphemeralVolumeSource"
      [("volumeClaimTemplate", .loose "PersistentVolumeClaimTemplate"
        [("metadata", metadata), ("spec", claimSpec)])]),
    ("gitRepo", .loose "GitRepoVolumeSource" (each .text ["directory", "repository", "revision"])),
    ("hostPath", .loose "HostPathVolumeSource" (each .text ["path", "type"])),
    ("image", .loose "ImageVolumeSource" (each .text ["pullPolicy", "reference"])),
    ("persistentVolumeClaim", .loose "PersistentVolumeClaimVolumeSource"
      [("claimName", .text), ("readOnly", .flag)]),
    ("projected", .loose "ProjectedVolumeSource"
      [("defaultMode", .int32), ("sources", .list projection)]),
    ("secret", .loose "SecretVolumeSource"
      [("defaultMode", .int32), ("items", .list keyToPath), ("optional", .flag),
        ("secretName", .text)])]

/-! ## What is attached -/

/-- The volumes that are attached by the network or by a provider. -/
def attachedSources : List (String × Shape) :=
  [("awsElasticBlockStore", .loose "AWSElasticBlockStoreVolumeSource" <|
      each .text ["fsType", "volumeID"] ++ [("partition", .int32), ("readOnly", .flag)]),
    ("azureDisk", .loose "AzureDiskVolumeSource" <|
      each .text ["cachingMode", "diskName", "diskURI", "fsType", "kind"]
        ++ [("readOnly", .flag)]),
    ("azureFile", .loose "AzureFileVolumeSource" <|
      each .text ["secretName", "shareName"] ++ [("readOnly", .flag)]),
    ("cephfs", .loose "CephFSVolumeSource" <|
      each .text ["path", "secretFile", "user"]
        ++ [("monitors", .texts), ("readOnly", .flag), ("secretRef", localReference)]),
    ("cinder", .loose "CinderVolumeSource" <|
      each .text ["fsType", "volumeID"] ++ [("readOnly", .flag), ("secretRef", localReference)]),
    ("csi", .loose "CSIVolumeSource" <|
      each .text ["driver", "fsType"]
        ++ [("nodePublishSecretRef", localReference), ("readOnly", .flag),
          ("volumeAttributes", .textTable)]),
    ("fc", .loose "FCVolumeSource"
      [("fsType", .text), ("lun", .int32), ("readOnly", .flag), ("targetWWNs", .texts),
        ("wwids", .texts)]),
    ("flexVolume", .loose "FlexVolumeSource" <|
      each .text ["driver", "fsType"]
        ++ [("options", .textTable), ("readOnly", .flag), ("secretRef", localReference)]),
    ("flocker", .loose "FlockerVolumeSource" (each .text ["datasetName", "datasetUUID"])),
    ("gcePersistentDisk", .loose "GCEPersistentDiskVolumeSource" <|
      each .text ["fsType", "pdName"] ++ [("partition", .int32), ("readOnly", .flag)]),
    ("glusterfs", .loose "GlusterfsVolumeSource" <|
      each .text ["endpoints", "path"] ++ [("readOnly", .flag)]),
    ("iscsi", .loose "ISCSIVolumeSource" <|
      each .text ["fsType", "initiatorName", "iqn", "iscsiInterface", "targetPortal"]
        ++ each .flag ["chapAuthDiscovery", "chapAuthSession", "readOnly"]
        ++ [("lun", .int32), ("portals", .texts), ("secretRef", localReference)]),
    ("nfs", .loose "NFSVolumeSource" <| each .text ["path", "server"] ++ [("readOnly", .flag)]),
    ("photonPersistentDisk", .loose "PhotonPersistentDiskVolumeSource" <|
      each .text ["fsType", "pdID"]),
    ("portworxVolume", .loose "PortworxVolumeSource" <|
      each .text ["fsType", "volumeID"] ++ [("readOnly", .flag)]),
    ("quobyte", .loose "QuobyteVolumeSource" <|
      each .text ["group", "registry", "tenant", "user", "volume"] ++ [("readOnly", .flag)]),
    ("rbd", .loose "RBDVolumeSource" <|
      each .text ["fsType", "image", "keyring", "pool", "user"]
        ++ [("monitors", .texts), ("readOnly", .flag), ("secretRef", localReference)]),
    ("scaleIO", .loose "ScaleIOVolumeSource" <|
      each .text
          ["fsType", "gateway", "protectionDomain", "storageMode", "storagePool", "system",
            "volumeName"]
        ++ each .flag ["readOnly", "sslEnabled"] ++ [("secretRef", localReference)]),
    ("storageos", .loose "StorageOSVolumeSource" <|
      each .text ["fsType", "volumeName", "volumeNamespace"]
        ++ [("readOnly", .flag), ("secretRef", localReference)]),
    ("vsphereVolume", .loose "VsphereVirtualDiskVolumeSource" <|
      each .text ["fsType", "storagePolicyID", "storagePolicyName", "volumePath"])]

/-- A volume. -/
def volume : Shape :=
  .loose "Volume" (("name", .text) :: (keptSources ++ attachedSources))

end Schema

end Api

end PodTail
