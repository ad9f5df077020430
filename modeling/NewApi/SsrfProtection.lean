import NewApi.Accounts

/-! # Which addresses may be fetched

The gateway fetches files that a request names by URL.  So that a request cannot reach internal
services, an administrator sets which ports, domains and addresses may be fetched, and private
addresses are refused unless they are allowed.  This module has the settings
(`SSRFProtection`) and the checks: of a host with its port (`ValidateNetworkTarget`), of an
address that a name resolves to (`ValidateResolvedIP`), and of a URL (`ValidateURL`).

An address is its 16 bytes; IPv4 addresses are the mapped ones, which is how `net.IP` compares
and masks them.  What `net`, `net/url` and `strings` make of texts is a parameter. -/
namespace NewApi

/-! ## Addresses -/

/-- `net.IP` with 4 or 16 bytes. -/
abbrev IP := BitVec 128

/-- The first bits of two addresses are the same. -/
def samePrefix {w : Nat} (ones : Nat) (a b : BitVec w) : Bool := a >>> (w - ones) = b >>> (w - ones)

namespace IP

def to4 (ip : IP) : Option (BitVec 32) :=
  if ip >>> 32 = 0xffff#128 then some (ip.setWidth 32) else none

/-- An address from its four bytes. -/
def v4 (a b c d : Nat) : BitVec 32 :=
  (BitVec.ofNat 32 a <<< 24) ||| (BitVec.ofNat 32 b <<< 16) ||| (BitVec.ofNat 32 c <<< 8) |||
    BitVec.ofNat 32 d

/-- `net.IPv4`. -/
def mapped (a : BitVec 32) : IP := (0xffff#128 <<< 32) ||| a.setWidth 128

/-- Sixteen bits at the front of an address. -/
def front (n : Nat) : IP := BitVec.ofNat 128 n <<< 112

/-- A multicast address with this scope. -/
def multicastScope (ip : IP) (scope : Nat) : Bool :=
  (ip >>> 120 = 0xff#128) && ((ip >>> 112) &&& 0x0f#128 = BitVec.ofNat 128 scope)

def isUnspecified (ip : IP) : Bool := ip = 0#128 || ip.to4 = some 0#32

def isLoopback (ip : IP) : Bool :=
  match ip.to4 with
  | some a => samePrefix 8 a (v4 127 0 0 0)
  | none => ip = 1#128

def isLinkLocalUnicast (ip : IP) : Bool :=
  match ip.to4 with
  | some a => samePrefix 16 a (v4 169 254 0 0)
  | none => samePrefix 10 ip (front 0xfe80)

def isLinkLocalMulticast (ip : IP) : Bool :=
  match ip.to4 with
  | some a => samePrefix 24 a (v4 224 0 0 0)
  | none => ip.multicastScope 2

def isInterfaceLocalMulticast (ip : IP) : Bool := ip.multicastScope 1

def isPrivate (ip : IP) : Bool :=
  match ip.to4 with
  | some a =>
      samePrefix 8 a (v4 10 0 0 0) || samePrefix 12 a (v4 172 16 0 0) ||
        samePrefix 16 a (v4 192 168 0 0)
  | none => samePrefix 7 ip (front 0xfc00)

end IP

/-- `net.IPNet`, by the length of its mask. -/
inductive IPNet where
  | net4 (base : BitVec 32) (ones : Nat)
  | net6 (base : IP) (ones : Nat)
  deriving DecidableEq, Repr

/-- `Contains`.  A network of mapped addresses has IPv4 addresses, by the end of its mask. -/
def IPNet.contains : IPNet → IP → Bool
  | .net4 base ones, ip =>
      match ip.to4 with
      | some a => samePrefix ones a base
      | none => false
  | .net6 base ones, ip =>
      match base.to4, ip.to4 with
      | some b, some a => samePrefix (ones - 96) a b
      | none, none => samePrefix ones ip base
      | _, _ => false

open IP

def privateIPv4Nets : List IPNet :=
  [.net4 (v4 0 0 0 0) 8, .net4 (v4 10 0 0 0) 8, .net4 (v4 100 64 0 0) 10,
    .net4 (v4 127 0 0 0) 8, .net4 (v4 169 254 0 0) 16, .net4 (v4 172 16 0 0) 12,
    .net4 (v4 192 0 0 0) 24, .net4 (v4 192 0 2 0) 24, .net4 (v4 192 168 0 0) 16,
    .net4 (v4 198 18 0 0) 15, .net4 (v4 198 51 100 0) 24, .net4 (v4 203 0 113 0) 24,
    .net4 (v4 224 0 0 0) 4, .net4 (v4 240 0 0 0) 4, .net4 (v4 255 255 255 255) 32]

def privateIPv6Nets : List IPNet :=
  [.net6 0#128 128, .net6 1#128 128, .net6 (mapped 0#32) 96,
    .net6 (front 0x64 ||| (0xff9b#128 <<< 96)) 96, .net6 (front 0x100) 64,
    .net6 (front 0x2001) 23, .net6 (front 0x2001 ||| (0xdb8#128 <<< 96)) 32,
    .net6 (front 0xfc00) 7, .net6 (front 0xfe80) 10, .net6 (front 0xff00) 8]

def isPrivateIP (ip : IP) : Bool :=
  if ip.isUnspecified then true
  else if ip.isLoopback || ip.isLinkLocalUnicast || ip.isLinkLocalMulticast then true
  else if ip.isInterfaceLocalMulticast then true
  else match ip.to4 with
  | some _ => privateIPv4Nets.any fun n => n.contains ip
  | none => (privateIPv6Nets.any fun n => n.contains ip) || ip.isPrivate

example : isPrivateIP (mapped (v4 169 254 169 254)) = true ∧
    isPrivateIP (mapped (v4 8 8 8 8)) = false := by decide

/-! ## Texts -/

/-- `url.URL`, as far as it is looked at. -/
structure FetchURL where
  scheme : String
  host : String
  /-- `Hostname()` -/
  hostname : String
  deriving DecidableEq, Repr

/-- What the standard library makes of texts. -/
structure GoNet where
  /-- `net.ParseIP` -/
  parseIP : String → Option IP
  /-- `net.ParseCIDR`, the network. -/
  parseCIDR : String → Option IPNet
  /-- `IP.String` -/
  ipString : IP → String
  /-- `net.SplitHostPort` -/
  splitHostPort : String → Except String (String × String)
  /-- `url.Parse` -/
  parseURL : String → Except String FetchURL
  /-- `strings.ToLower` -/
  toLower : String → String
  /-- An address has no blanks around it. -/
  trimSpace_of_parseIP : ∀ {s ip}, parseIP s = some ip → trimSpace s = s

/-- `strconv.Atoi`. -/
def atoi (s : String) : Option Int :=
  let (negative, digits) :=
    match s.toList with
    | '-' :: digits => (true, digits)
    | '+' :: digits => (false, digits)
    | digits => (false, digits)
  if digits = [] ∨ digits.any (fun c => !c.isDigit) = true then none
  else
    let magnitude : Nat := digits.foldl (fun n c => 10 * n + (c.toNat - 48)) 0
    let value : Int := if negative then -magnitude else magnitude
    if value < -9223372036854775808 ∨ 9223372036854775807 < value then none else some value

/-- One entry of `parsePortRanges`. -/
def parsePortRange (config : String) : Except String (List Int) :=
  if '-' ∈ config.toList then
    match (config.toList.splitOn '-').map fun part => atoi (trimSpace (String.ofList part)) with
    | [some startPort, some endPort] =>
        if endPort < startPort then
          .error ("invalid port range " ++ config ++
            ": start port cannot be greater than end port")
        else if startPort < 1 ∨ 65535 < startPort ∨ endPort < 1 ∨ 65535 < endPort then
          .error ("port range " ++ config ++
            " contains invalid port numbers (must be 1-65535)")
        else .ok ((List.range (endPort - startPort + 1).toNat).map fun i => startPort + (i : Int))
    | [none, _] => .error ("invalid start port in range " ++ config)
    | [some _, none] => .error ("invalid end port in range " ++ config)
    | _ => .error ("invalid port range format: " ++ config)
  else match atoi config with
  | none => .error ("invalid port number: " ++ config)
  | some port =>
      if port < 1 ∨ 65535 < port then
        .error ("invalid port number " ++ toString port ++ " (must be 1-65535)")
      else .ok [port]

def parsePortRanges : List String → Except String (List Int)
  | [] => .ok []
  | config :: configs =>
      let config := trimSpace config
      if config = "" then parsePortRanges configs
      else match parsePortRange config with
      | .error e => .error e
      | .ok ports => (parsePortRanges configs).map (ports ++ ·)

/-! ## The settings -/

structure SSRFProtection where
  allowPrivateIp : Bool
  /-- The domains are the allowed ones, not the refused ones. -/
  domainFilterMode : Bool
  domainList : List String
  /-- The addresses are the allowed ones, not the refused ones. -/
  ipFilterMode : Bool
  ipList : List String
  allowedPorts : List Int
  applyIPFilterForDomain : Bool
  deriving DecidableEq, Repr

structure FetchSetting where
  enableSSRFProtection : Bool
  allowPrivateIp : Bool
  domainFilterMode : Bool
  ipFilterMode : Bool
  domainList : List String
  ipList : List String
  allowedPorts : List String
  applyIPFilterForDomain : Bool
  deriving DecidableEq, Repr

/-- `NewSSRFProtectionFromFetchSetting`. -/
def FetchSetting.protection (setting : FetchSetting) : Except String SSRFProtection :=
  match parsePortRanges setting.allowedPorts with
  | .error e => .error ("request reject - invalid port configuration: " ++ e)
  | .ok ports => .ok
      { allowPrivateIp := setting.allowPrivateIp
        domainFilterMode := setting.domainFilterMode
        domainList := setting.domainList
        ipFilterMode := setting.ipFilterMode
        ipList := setting.ipList
        allowedPorts := ports
        applyIPFilterForDomain := setting.applyIPFilterForDomain }

theorem FetchSetting.protection_applies {setting : FetchSetting} {p : SSRFProtection}
    (h : setting.protection = .ok p) :
    p.applyIPFilterForDomain = setting.applyIPFilterForDomain := by
  rw [FetchSetting.protection] at h
  split at h
  · cases h
  cases h
  rfl

/-! ## The checks -/

namespace SSRFProtection
variable (net : GoNet) (p : SSRFProtection)

def isAllowedPort (port : Int) : Bool := p.allowedPorts = [] || p.allowedPorts.contains port

/-- `isDomainListed`, for one entry. -/
def domainMatches (domain item : String) : Bool :=
  let domain := net.toLower domain
  let item := net.toLower (trimSpace item)
  if item = "" then false
  else if domain = item then true
  else if "*.".toList.isPrefixOf item.toList then
    let suffix := item.toList.drop 2
    ('.' :: suffix).isSuffixOf domain.toList || domain.toList = suffix
  else false

def isDomainAllowed (domain : String) : Bool :=
  let listed := p.domainList.any (domainMatches net domain)
  if p.domainFilterMode then listed else !listed

/-- `IsIpInCIDRList`, for one entry. -/
def ipMatches (ip : IP) (cidr : String) : Bool :=
  match net.parseCIDR cidr with
  | some network => network.contains ip
  | none => net.parseIP cidr = some ip

def isIPAccessAllowed (ip : IP) : Bool :=
  if isPrivateIP ip && !p.allowPrivateIp then false
  else
    let listed := p.ipList.any (ipMatches net ip)
    if p.ipFilterMode then listed else !listed

def ipAccessError (host : String) (ip : IP) : String :=
  let target := if host = "" then net.ipString ip else host ++ " resolves to " ++ net.ipString ip
  if isPrivateIP ip && !p.allowPrivateIp then "private IP address not allowed: " ++ target
  else if p.ipFilterMode then "ip not in whitelist: " ++ target
  else "ip in blacklist: " ++ target

def validateNetworkTarget (host : String) (port : Int) : Except String Unit :=
  let host := trimSpace host
  if host = "" then .error "invalid host"
  else if port < 1 ∨ 65535 < port then .error ("invalid port: " ++ toString port)
  else if p.isAllowedPort port = false then .error ("port " ++ toString port ++ " is not allowed")
  else match net.parseIP host with
  | some ip => if p.isIPAccessAllowed net ip then .ok () else .error (p.ipAccessError net "" ip)
  | none =>
      if p.isDomainAllowed net host then .ok ()
      else if p.domainFilterMode then .error ("domain not in whitelist: " ++ host)
      else .error ("domain in blacklist: " ++ host)

def validateResolvedIP (host : String) (ip : IP) : Except String Unit :=
  if p.isIPAccessAllowed net ip then .ok () else .error (p.ipAccessError net host ip)

/-- The loops that check every address a name resolves to. -/
def validateResolvedIPs (host : String) : List IP → Except String Unit
  | [] => .ok ()
  | ip :: ips =>
      match p.validateResolvedIP net host ip with
      | .error e => .error e
      | .ok () => validateResolvedIPs host ips

/-- `ValidateURL`; `lookup` is what the resolver answers. -/
def validateURL (urlStr : String) (lookup : Except String (List IP)) : Except String Unit :=
  match net.parseURL urlStr with
  | .error e => .error ("invalid URL format: " ++ e)
  | .ok u =>
      if u.scheme ≠ "http" ∧ u.scheme ≠ "https" then
        .error ("unsupported protocol: " ++ u.scheme ++ " (only http/https allowed)")
      else
        let (host, portStr) :=
          match net.splitHostPort u.host with
          | .ok target => target
          | .error _ => (u.hostname, if u.scheme = "https" then "443" else "80")
        match atoi portStr with
        | none => .error ("invalid port: " ++ portStr)
        | some port =>
            match p.validateNetworkTarget net host port with
            | .error e => .error e
            | .ok () =>
                if (net.parseIP host).isSome ∨ p.applyIPFilterForDomain = false then .ok ()
                else match lookup with
                | .error e => .error ("DNS resolution failed for " ++ host ++ ": " ++ e)
                | .ok ips => p.validateResolvedIPs net host ips

end SSRFProtection

def FetchSetting.validateSSRFProtectedFetchURL (setting : FetchSetting) (net : GoNet)
    (urlStr : String) (lookup : Except String (List IP)) : Except String Unit :=
  if setting.enableSSRFProtection = false then .ok ()
  else match setting.protection with
  | .error e => .error e
  | .ok p => p.validateURL net urlStr lookup

/-! ## What passes the checks -/

namespace SSRFProtection
variable {net : GoNet} {p : SSRFProtection} {host : String}

/-- **A host and a port that pass**: the port is allowed, and the host, without the blanks around
it, is an allowed address or an allowed domain. -/
theorem validateNetworkTarget_ok {port : Int} (h : p.validateNetworkTarget net host port = .ok ()) :
    p.isAllowedPort port = true ∧
      ((∃ ip, net.parseIP (trimSpace host) = some ip ∧ p.isIPAccessAllowed net ip = true) ∨
        (net.parseIP (trimSpace host) = none ∧ p.isDomainAllowed net (trimSpace host) = true)) := by
  simp only [validateNetworkTarget] at h
  iterate 3
    split at h
    · cases h
  rename_i hpo
  refine ⟨by simpa using hpo, ?_⟩
  cases hpar : net.parseIP (trimSpace host) with
  | some ip =>
    simp only [hpar] at h
    refine .inl ⟨ip, rfl, ?_⟩
    by_contra hip
    rw [if_neg hip] at h
    cases h
  | none =>
    simp only [hpar] at h
    refine .inr ⟨rfl, ?_⟩
    by_contra hdom
    rw [if_neg hdom] at h
    split at h
    · cases h
    · cases h

/-- A host that is an address, as it stands, is an allowed one. -/
theorem validateNetworkTarget_literal {port : Int} {ip : IP}
    (h : p.validateNetworkTarget net host port = .ok ()) (hip : net.parseIP host = some ip) :
    p.isIPAccessAllowed net ip = true := by
  obtain ⟨-, hho⟩ := validateNetworkTarget_ok h
  rw [net.trimSpace_of_parseIP hip, hip] at hho
  rcases hho with ⟨_, ⟨⟩, hall⟩ | ⟨hno, -⟩
  · exact hall
  · cases hno

/-- Every address of a name that passes is allowed. -/
theorem validateResolvedIPs_ok {ips : List IP} (h : p.validateResolvedIPs net host ips = .ok ()) :
    ∀ ip ∈ ips, p.isIPAccessAllowed net ip = true := by
  induction ips with
  | nil => simp
  | cons ip ips ih =>
    simp only [validateResolvedIPs] at h
    split at h
    · cases h
    rename_i hip
    have hall : p.isIPAccessAllowed net ip = true := by
      by_contra hnot
      rw [validateResolvedIP, if_neg hnot] at hip
      cases hip
    rintro other hoth
    rcases List.mem_cons.mp hoth with rfl | hmem
    · exact hall
    · exact ih h other hmem

/-! ## Spellings of one name -/

variable {host' : String}

/-- A host that is a name, not an address. -/
structure IsName (net : GoNet) (host : String) : Prop where
  ne_empty : trimSpace host ≠ ""
  not_ip : net.parseIP (trimSpace host) = none

/-- A host as the domain filter compares it. -/
def spelling (net : GoNet) (host : String) : String := net.toLower (trimSpace host)

/-- Two hosts are equal up to letter case and one dot at the end. -/
def SameName (net : GoNet) (host host' : String) : Prop :=
  spelling net host = spelling net host' ∨ spelling net host' = spelling net host ++ "." ∨
    spelling net host = spelling net host' ++ "."

theorem validateNetworkTarget_name_iff (hn : IsName net host) (port : Int) :
    p.validateNetworkTarget net host port = .ok () ↔
      (1 ≤ port ∧ port ≤ 65535) ∧ p.isAllowedPort port = true ∧
        p.isDomainAllowed net (trimSpace host) = true := by
  have hran : 1 ≤ port ∧ port ≤ 65535 ↔ ¬(port < 1 ∨ 65535 < port) := by omega
  rw [validateNetworkTarget, if_neg hn.ne_empty, hn.not_ip, hran]
  split_ifs <;> simp_all

/-- The filter reads a host only through its spelling. -/
theorem isDomainAllowed_congr (h : spelling net host = spelling net host') :
    p.isDomainAllowed net (trimSpace host) = p.isDomainAllowed net (trimSpace host') := by
  have hmat : domainMatches net (trimSpace host) = domainMatches net (trimSpace host') := by
    unfold spelling at h
    funext item
    simp only [domainMatches, h]
  rw [isDomainAllowed, isDomainAllowed, hmat]

/-- An entry with a dot at its end lists the host that is spelled so, and not the one without. -/
theorem domainMatches_dotted (h : spelling net host' = spelling net host ++ ".") :
    domainMatches net (trimSpace host') host' = true ∧
      domainMatches net (trimSpace host) host' = false := by
  unfold spelling at h
  simp only [domainMatches, h]
  refine ⟨by simp, ?_⟩
  generalize net.toLower (trimSpace host) = name
  have hne : name ≠ name ++ "." := fun heq => by simpa using congrArg String.length heq
  rw [if_neg (by simp), if_neg hne]
  split
  · rename_i hstar
    rw [String.toList_append] at hstar ⊢
    cases hname : name.toList with
    | nil => simp [hname] at hstar
    | cons c rest =>
      rw [hname] at hstar
      obtain ⟨rfl, -⟩ : '*' = c ∧ ['.'] <+: rest ++ ['.'] := by simpa using hstar
      -- What stands behind the star is as long as the name, which starts with the star.
      rw [Bool.or_eq_false_iff, Bool.eq_false_iff, ne_eq, List.isSuffixOf_iff_suffix]
      constructor
      · intro hsuf
        cases hsuf.eq_of_length (by simp)
      · refine decide_eq_false fun heq => ?_
        simpa using congrArg List.length heq
  · rfl

/-- One domain is refused, and nothing else. -/
def blacklist (domain : String) : SSRFProtection :=
  ⟨true, false, [domain], false, [], [], false⟩

theorem blacklist_dotted (hn : IsName net host) (hn' : IsName net host')
    (h : spelling net host' = spelling net host ++ ".") :
    (blacklist host').validateNetworkTarget net host 443 = .ok () ∧
      (blacklist host').validateNetworkTarget net host' 443 ≠ .ok () := by
  obtain ⟨hlis, hnot⟩ := domainMatches_dotted h
  rw [validateNetworkTarget_name_iff hn, ne_eq, validateNetworkTarget_name_iff hn']
  simp [blacklist, isAllowedPort, isDomainAllowed, hlis, hnot]

/-- **Two spellings of one name get the same verdict under all settings exactly when both have the
dot at the end or both have none.** -/
theorem same_verdict_iff (hn : IsName net host) (hn' : IsName net host')
    (hsame : SameName net host host') :
    (∀ (p : SSRFProtection) (port : Int), p.validateNetworkTarget net host port = .ok () ↔
      p.validateNetworkTarget net host' port = .ok ()) ↔
      spelling net host = spelling net host' := by
  constructor
  · intro hall
    rcases hsame with heq | hdot | hdot
    · exact heq
    · obtain ⟨hok, hno⟩ := blacklist_dotted hn hn' hdot
      exact absurd ((hall _ _).mp hok) hno
    · obtain ⟨hok, hno⟩ := blacklist_dotted hn' hn hdot
      exact absurd ((hall _ _).mpr hok) hno
  · intro heq p port
    rw [validateNetworkTarget_name_iff hn, validateNetworkTarget_name_iff hn',
      isDomainAllowed_congr heq]

/-- A library that reads no addresses. -/
def namesOnly : GoNet where
  parseIP _ := none
  parseCIDR _ := none
  ipString _ := ""
  splitHostPort _ := .error ""
  parseURL _ := .error ""
  toLower s := String.ofList (s.toList.map Char.toLower)
  trimSpace_of_parseIP := nofun

/-- Capitals make no difference. -/
theorem same_verdict_capitals : SameName namesOnly "Evil.com" "evil.com" ∧
    ∀ (p : SSRFProtection) (port : Int),
      p.validateNetworkTarget namesOnly "Evil.com" port = .ok () ↔
        p.validateNetworkTarget namesOnly "evil.com" port = .ok () := by
  have hsame : SameName namesOnly "Evil.com" "evil.com" := .inl (by decide)
  exact ⟨hsame, (same_verdict_iff ⟨by decide, rfl⟩ ⟨by decide, rfl⟩ hsame).mpr (by decide)⟩

/-- **A dot at the end passes the blacklist.** -/
theorem dotted_name_passes : SameName namesOnly "evil.com" "evil.com." ∧
    (blacklist "evil.com").validateNetworkTarget namesOnly "evil.com" 443 =
      .error "domain in blacklist: evil.com" ∧
    (blacklist "evil.com").validateNetworkTarget namesOnly "evil.com." 443 = .ok () := by
  unfold SameName
  decide

end SSRFProtection

end NewApi
