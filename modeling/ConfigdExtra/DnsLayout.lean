import ConfigdExtra.MemoryProgram

/-!
# The buffer of a DNS configuration

A DNS configuration travels in one buffer: a header, then attributes, each with its type and
length. An attribute of the configuration holds a resolver, which is again a header followed by
attributes. Numbers are in network byte order. When the buffer is expanded, padding behind the
last attribute takes the lists of pointers.

* `ResolverList`, `ResolverScalar`, `ResolverField` — the fields of `dns_resolver_t`;
  `ResolverKind`, `ConfigField` — those of `dns_config_t`.
* `DnsLayout` — where these fields lie. The two structures are declared outside this
  repository, so it is a parameter; `dnsinfoLayout` is the layout the comments describe, with
  every structure packed to four bytes.
* `ResolverKind.ofType`, `ResolverAttribute.ofType` — the types of attributes.
-/

namespace ConfigdExtra

open Memory (pointerSize)

/-! ## Fields -/

/-- The lists of `dns_resolver_t`. -/
inductive ResolverList where
  /-- `nameserver`, a list of `struct sockaddr *` -/
  | nameserver
  /-- `search`, a list of `char *` -/
  | search
  /-- `sortaddr`, a list of `dns_sortaddr_t *` -/
  | sortaddr
  deriving DecidableEq, Repr

/-- The numbers of `dns_resolver_t` that are not the length of a list. -/
inductive ResolverScalar where
  /-- `port`, a `uint16_t` -/
  | port
  /-- `timeout` -/
  | timeout
  /-- `search_order` -/
  | searchOrder
  /-- `if_index` -/
  | ifIndex
  /-- `service_identifier` -/
  | serviceIdentifier
  /-- `flags` -/
  | flags
  /-- `reach_flags` -/
  | reachFlags
  deriving DecidableEq, Repr

/-- The fields of `dns_resolver_t`. -/
inductive ResolverField where
  /-- `domain` -/
  | domain
  /-- `options` -/
  | options
  /-- `cid` -/
  | cid
  /-- `if_name` -/
  | ifName
  /-- `n_nameserver`, `n_search`, `n_sortaddr` -/
  | n (l : ResolverList)
  /-- `nameserver`, `search`, `sortaddr` -/
  | list (l : ResolverList)
  /-- a number -/
  | scalar (s : ResolverScalar)
  deriving DecidableEq, Repr

/-- The resolvers of a configuration, by the type of their attribute. -/
inductive ResolverKind where
  /-- `CONFIG_ATTRIBUTE_RESOLVER` -/
  | resolver
  /-- `CONFIG_ATTRIBUTE_SCOPED_RESOLVER` -/
  | scopedResolver
  /-- `CONFIG_ATTRIBUTE_SERVICE_SPECIFIC_RESOLVER` -/
  | serviceSpecificResolver
  deriving DecidableEq, Repr

/-- The fields of `dns_config_t`. -/
inductive ConfigField where
  /-- `n_resolver`, `n_scoped_resolver`, `n_service_specific_resolver` -/
  | n (k : ResolverKind)
  /-- `resolver`, `scoped_resolver`, `service_specific_resolver` -/
  | list (k : ResolverKind)
  /-- `generation` -/
  | generation
  /-- `version` -/
  | version
  deriving DecidableEq, Repr

/-- The lists of a resolver, in the order in which they are claimed. -/
def ResolverList.all : List ResolverList := [nameserver, search, sortaddr]

/-- The lists of a configuration, in the order in which they are claimed. -/
def ResolverKind.all : List ResolverKind := [resolver, scopedResolver, serviceSpecificResolver]

/-- All fields. -/
def ResolverField.all : List ResolverField :=
  [domain, options, cid, ifName] ++ ResolverList.all.map n ++ ResolverList.all.map list ++
    [ResolverScalar.port, .timeout, .searchOrder, .ifIndex, .serviceIdentifier, .flags,
      .reachFlags].map scalar

/-- All fields. -/
def ConfigField.all : List ConfigField :=
  [generation, version] ++ ResolverKind.all.map n ++ ResolverKind.all.map list

theorem ResolverList.mem_all (l : ResolverList) : l ∈ all := by cases l <;> decide

theorem ResolverKind.mem_all (k : ResolverKind) : k ∈ all := by cases k <;> decide

theorem ResolverField.mem_all (f : ResolverField) : f ∈ all := by
  cases f with
  | n l | list l => cases l <;> decide
  | scalar s => cases s <;> decide
  | _ => decide

theorem ConfigField.mem_all (f : ConfigField) : f ∈ all := by
  cases f with
  | n k | list k => cases k <;> decide
  | _ => decide

/-- The number of bytes of a field. -/
def ResolverField.width : ResolverField → ℕ
  | domain | options | cid | ifName | list _ => pointerSize
  | n _ => 4
  | scalar .port => 2
  | scalar _ => 4

/-- The number of bytes of a field. -/
def ConfigField.width : ConfigField → ℕ
  | n _ | version => 4
  | list _ => pointerSize
  | generation => 8

/-! ## Layouts -/

/-- The declarations of `dns_config_t` and `dns_resolver_t`. -/
structure DnsLayout where
  /-- `dns_config_t` -/
  config : StructLayout ConfigField
  /-- `dns_resolver_t` -/
  resolver : StructLayout ResolverField
  /-- the fields of `dns_config_t` have their widths -/
  config_width : ∀ f, config.width f = f.width
  /-- the fields of `dns_resolver_t` have their widths -/
  resolver_width : ∀ f, resolver.width f = f.width
  /-- `dns_config_t` is small -/
  config_size : config.size < 2 ^ 16
  /-- `dns_resolver_t` is small -/
  resolver_size : resolver.size < 2 ^ 16

namespace DnsLayout

/-- `sizeof(_dns_config_buf_t)`: a `dns_config_t`, `n_attribute` and `n_padding` -/
def configBufSize (L : DnsLayout) : ℕ := L.config.size + 8

/-- `sizeof(_dns_resolver_buf_t)`: a `dns_resolver_t` and `n_attribute` -/
def resolverBufSize (L : DnsLayout) : ℕ := L.resolver.size + 4

end DnsLayout

/-- `sizeof(dns_attribute_t)`: `type` and `length` -/
def attributeSize : ℕ := 8

/-- `DNS_CONFIG_BUF_MAX` -/
def dnsConfigBufMax : ℕ := 1024 * 1024

/-- Where the fields of `dns_config_t` lie, in the order of the comments. -/
def ConfigField.offset : ConfigField → ℕ
  | n .resolver => 0
  | list .resolver => 4
  | n .scopedResolver => 12
  | list .scopedResolver => 16
  | generation => 24
  | n .serviceSpecificResolver => 32
  | list .serviceSpecificResolver => 36
  | version => 44

/-- Where the fields of `dns_resolver_t` lie. -/
def ResolverField.offset : ResolverField → ℕ
  | domain => 0
  | n .nameserver => 8
  | list .nameserver => 12
  | scalar .port => 20
  | n .search => 24
  | list .search => 28
  | n .sortaddr => 36
  | list .sortaddr => 40
  | options => 48
  | scalar .timeout => 56
  | scalar .searchOrder => 60
  | scalar .ifIndex => 64
  | scalar .flags => 68
  | scalar .reachFlags => 72
  | scalar .serviceIdentifier => 76
  | cid => 80
  | ifName => 88

theorem ConfigField.apart : ∀ f ∈ all, ∀ g ∈ all, f ≠ g →
    f.offset + f.width ≤ g.offset ∨ g.offset + g.width ≤ f.offset := by decide

theorem ResolverField.apart : ∀ f ∈ all, ∀ g ∈ all, f ≠ g →
    f.offset + f.width ≤ g.offset ∨ g.offset + g.width ≤ f.offset := by decide

/-- The layout of `dns_config_t`. -/
def dnsConfigLayout : StructLayout ConfigField where
  size := 48
  offset := ConfigField.offset
  width := ConfigField.width
  fits f := (by decide : ∀ f ∈ ConfigField.all, f.offset + f.width ≤ 48) f f.mem_all
  apart f g := ConfigField.apart f f.mem_all g g.mem_all

/-- The layout of `dns_resolver_t`. -/
def dnsResolverLayout : StructLayout ResolverField where
  size := 96
  offset := ResolverField.offset
  width := ResolverField.width
  fits f := (by decide : ∀ f ∈ ResolverField.all, f.offset + f.width ≤ 96) f f.mem_all
  apart f g := ResolverField.apart f f.mem_all g g.mem_all

/-- The layout of `dnsinfo.h`. -/
def dnsinfoLayout : DnsLayout where
  config := dnsConfigLayout
  resolver := dnsResolverLayout
  config_width _ := rfl
  resolver_width _ := rfl
  config_size := by decide
  resolver_size := by decide

/-! ## Types of attributes -/

/-- The attributes of a resolver. -/
inductive ResolverAttribute where
  /-- `RESOLVER_ATTRIBUTE_DOMAIN` -/
  | domain
  /-- `RESOLVER_ATTRIBUTE_ADDRESS` -/
  | address
  /-- `RESOLVER_ATTRIBUTE_SEARCH` -/
  | search
  /-- `RESOLVER_ATTRIBUTE_SORTADDR` -/
  | sortaddr
  /-- `RESOLVER_ATTRIBUTE_OPTIONS` -/
  | options
  /-- `RESOLVER_ATTRIBUTE_CONFIGURATION_ID` -/
  | configurationId
  /-- `RESOLVER_ATTRIBUTE_INTERFACE_NAME` -/
  | interfaceName
  deriving DecidableEq, Repr

/-- The attribute of a resolver with a type, if it is one that is known. -/
def ResolverAttribute.ofType : ℕ → Option ResolverAttribute
  | 10 => some .domain
  | 11 => some .address
  | 12 => some .search
  | 13 => some .sortaddr
  | 14 => some .options
  | 15 => some .configurationId
  | 16 => some .interfaceName
  | _ => none

/-- The kind of resolver that an attribute of the configuration holds, if it is one. -/
def ResolverKind.ofType : ℕ → Option ResolverKind
  | 1 => some .resolver
  | 2 => some .scopedResolver
  | 3 => some .serviceSpecificResolver
  | _ => none

/-- What an attribute of a resolver is for: a field that is to point to it, or a list of
pointers that is to have one more. -/
inductive ResolverTarget where
  /-- the field `f` points to it -/
  | field (f : ResolverField)
  /-- the list `l` has it as its next element -/
  | list (l : ResolverList)
  deriving DecidableEq, Repr

/-- The cases of the `switch` over the type of an attribute. -/
def ResolverAttribute.target : ResolverAttribute → ResolverTarget
  | domain => .field .domain
  | address => .list .nameserver
  | search => .list .search
  | sortaddr => .list .sortaddr
  | options => .field .options
  | configurationId => .field .cid
  | interfaceName => .field .ifName

end ConfigdExtra
