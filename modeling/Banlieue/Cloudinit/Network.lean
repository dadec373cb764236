import Banlieue.Api.Common

namespace Banlieue.Cloudinit

open Banlieue.Api

/-! # The network configuration of a seed -/

structure SeedNic where
  name : String
  mac : Option String
  ipam : IpamSpec

def anyStatic (nics : List SeedNic) : Bool := nics.any fun nic => nic.ipam.static.isSome

/-- A quoted YAML scalar on one line. -/
def quote (text : String) : String :=
  let flat := text.toList.flatMap fun char =>
    if char = '\n' ∨ char = '\r' then [' '] else if char = '\'' then ['\'', '\''] else [char]
  "'" ++ String.ofList flat ++ "'"

def nameserverLines (config : StaticIpamConfig) : String :=
  let dns := config.nameservers.map quote
  let search := config.domain.toList.map quote
  if dns.isEmpty && search.isEmpty then ""
  else
    "    nameservers:\n" ++
      (if dns.isEmpty then "" else "      addresses: [" ++ ", ".intercalate dns ++ "]\n") ++
      (if search.isEmpty then "" else "      search: [" ++ ", ".intercalate search ++ "]\n")

def addressLines : Option StaticIpamConfig → String
  | none => "    dhcp4: true\n"
  | some config =>
    "    addresses:\n      - " ++ quote (config.address ++ "/" ++ toString config.prefixLen.toNat) ++ "\n" ++
      (config.gateway.elim "" fun gateway =>
        "    routes:\n      - to: default\n        via: " ++ quote gateway ++ "\n") ++
      nameserverLines config

def nicLines (nic : SeedNic) : String :=
  "  " ++ quote nic.name ++ ":\n" ++
    (nic.mac.elim "" fun mac =>
      "    match:\n      macaddress: " ++ quote mac ++ "\n" ++ "    set-name: " ++ quote nic.name ++ "\n") ++
    addressLines nic.ipam.static

/-- There is none when every interface uses DHCP. -/
def networkConfig (nics : List SeedNic) : Option String :=
  if anyStatic nics then some ("version: 2\nethernets:\n" ++ String.join (nics.map nicLines)) else none

end Banlieue.Cloudinit
