import Banlieue.Api.VirtualMachine

namespace Banlieue.Sdk

open Banlieue.Api

/-! # Placeholders in guest bootstrap data -/

structure GuestDataContext where
  vmName : String
  static : Option StaticIpamConfig

/-- A name that already ends in the domain is not qualified again; case does not
matter. -/
def fqdn (vmName domain : String) : String :=
  if domain.isEmpty then vmName ++ "."
  else if vmName.toLower.endsWith ("." ++ domain.toLower) then vmName
  else vmName ++ "." ++ domain

/-- Literal replacement of a fixed set of placeholders, one after the other. -/
def renderPlaceholders (raw : String) (context : GuestDataContext) : String :=
  let domain := (context.static.bind StaticIpamConfig.domain).getD ""
  let address := (context.static.map StaticIpamConfig.address).getD ""
  let prefixLength := (context.static.map fun config => toString config.prefixLen).getD ""
  let gateway := (context.static.bind StaticIpamConfig.gateway).getD ""
  let dns := (context.static.map fun config => ",".intercalate config.nameservers).getD ""
  ((((((raw.replace "$\x7bVM_NAME\x7d" context.vmName).replace "$\x7bFQDN\x7d"
    (fqdn context.vmName domain)).replace "$\x7bIP\x7d" address).replace "$\x7bPREFIX\x7d"
    prefixLength).replace "$\x7bGATEWAY\x7d" gateway).replace "$\x7bDNS\x7d" dns).replace
    "$\x7bDOMAIN\x7d" domain

end Banlieue.Sdk
