import Enforcement.Image.Name
import Enforcement.Policy.Fragment
import Enforcement.Text.Blank

/-! What every policy holds without being asked, and the names the platform gives to things. -/

namespace Enforcement.Defaults

open Enforcement.Text

/-- The tag that keeps the fragments of others out of a group. -/
def zeroSidecarTag : String := "Annotate-zero-sidecar"

def configMapPath : String := "/mnt/configmap"

private def optional (strategy : EnvStrategy) (pattern : String) : EnvRule :=
  ⟨pattern, strategy, false⟩

def envRules : List EnvRule :=
  optional .string "TERM=xterm" ::
    ["(?i)(FABRIC)_.+=.+", "HOSTNAME=.+", "T(E)?MP=.+", "FabricPackageFileName=.+",
     "HostedServiceName=.+", "IDENTITY_API_VERSION=.+", "IDENTITY_HEADER=.+",
     "IDENTITY_SERVER_THUMBPRINT=.+", "azurecontainerinstance_restarted_by=.+"].map
      (optional .re2)

def mountSources : List (String × String) :=
  [("azureFile", "sandbox:///tmp/atlas/azureFileVolume/.+"),
   ("secret", "sandbox:///tmp/atlas/secretsVolume/.+"),
   ("emptyDir", "sandbox:///tmp/atlas/emptydir/.+"),
   ("gitRepo", "sandbox:///tmp/atlas/gitRepoVolume/.+"),
   ("configMap", "sandbox:///tmp/atlas/configmap/.+"),
   ("resolvconf", "sandbox:///tmp/atlas/resolvconf/.+")]

def mountRule? (kind destination : String) (readOnly : Bool) : Option MountRule :=
  (mountSources.find? (sameLetters ·.1 kind)).map fun (_, source) =>
    ⟨destination, source, "bind", ["rbind", "rshared", if readOnly then "ro" else "rw"]⟩

def sidecarImages : List String :=
  ["mcr.microsoft.com/aci/msi-atlas-adapter", "mcr.microsoft.com/aci/atlas-adapter"]

def isSidecar (image : String) : Bool := sidecarImages.contains (Image.stripVersion image)

/-- Every container but a sidecar is given the resolver's configuration. -/
def userMounts (image : String) : List MountRule :=
  if isSidecar image then [] else (mountRule? "resolvconf" "/etc/resolv.conf" false).toList

def debugShells : List ExecProcess := ["/bin/sh", "/bin/bash"].map fun shell => ⟨[shell], []⟩

def signals : List (String × Int32) :=
  [("SIGHUP", 1), ("SIGINT", 2), ("SIGQUIT", 3), ("SIGKILL", 9), ("SIGUSR1", 10),
   ("SIGUSR2", 12), ("SIGTERM", 15), ("SIGCONT", 18), ("SIGSTOP", 19)]

def signalNumber? (name : String) : Option Int32 :=
  let upper := (trim name.toList).map Char.toUpper
  let full := if "SIG".toList.isPrefixOf upper then upper else "SIG".toList ++ upper
  (signals.find? (·.1.toList == full)).map (·.2)

def infrastructureIssuer : String :=
  "did:x509:0:sha256:I__iuL25oXEVFdTP_aBLx_eT1RPHbCQ_ECBQfYZpt9s::eku:1.3.6.1.4.1.311.76.59.1.3"

def infrastructureFeed : String := "mcr.microsoft.com/aci/aci-cc-infra-fragment"

def infrastructureFragment (minimumSvn : Option String) : FragmentImport :=
  .normalized infrastructureIssuer infrastructureFeed (minimumSvn.getD "1") Contribution.all

end Enforcement.Defaults
