import NewApi.SsrfProtection
import NewApi.Steps

/-! # A protected fetch

The client for fetches that requests ask for (`GetSSRFProtectedHTTPClient`) checks a URL before it
sends a request (`RoundTrip`), checks the target of a redirect before it follows it
(`checkProtectedFetchRedirect`), and checks an address before it connects to it
(`protectedFetchDialer.DialContext`).  Each of them looks the host up for itself, so that a
resolver may answer the first with a public address and the last with a private one; and a
server may redirect to any URL.

A fetch is a run in which the transport dials what it likes and whenever it likes, but only
through `DialContext`, and asks `CheckRedirect` before each redirect.  Answers of the resolver,
redirects and the outcome of a connection are inputs.  `dials_permitted` says that whatever they
are, every address that is dialed is an allowed one.  The dialer checks the very addresses that it
dials, so the other two checks are not needed for it. -/
namespace NewApi
open IP List Steps

/-! ## The dialer -/

/-- The address that the underlying dialer gets. -/
inductive DialAddress where
  /-- `net.JoinHostPort(ip.String(), portText)` -/
  | literal (ip : IP) (portText : String)
  /-- The address as it came. -/
  | text (addr : String)
  deriving DecidableEq, Repr

/-- An address that was dialed, and the host that was asked for. -/
structure Dial where
  host : String
  address : DialAddress
  deriving DecidableEq, Repr

def networkAllowsIP (network : String) (ip : IP) : Bool :=
  if network = "tcp4" then ip.to4.isSome
  else if network = "tcp6" then ip.to4.isNone
  else true

/-- The loop that dials one address after the other until one answers.  `outcome` says what each
attempt ends with, `none` being a connection; the addresses that were dialed are returned, and
the last error. -/
def dialEach (outcome : Nat → Option String) (lastErr : String) :
    Nat → List IP → List IP × Except String Unit
  | _, [] => ([], .error lastErr)
  | i, ip :: rest =>
      match outcome i with
      | none => ([ip], .ok ())
      | some e =>
          let (dialed, result) := dialEach outcome e (i + 1) rest
          (ip :: dialed, result)

/-- The addresses that the dialer looks at. -/
def usableIPs (network : String) (resolved : List (Option IP)) : List IP :=
  resolved.filterMap fun ip => ip.filter (networkAllowsIP network)

/-- `protectedFetchDialer.DialContext`.  `resolved` is what the resolver answers. -/
def FetchSetting.dialContext (setting : FetchSetting) (net : GoNet) (network addr : String)
    (resolved : Except String (List (Option IP))) (outcome : Nat → Option String) :
    List Dial × Except String Unit :=
  if setting.enableSSRFProtection = false then
    ([⟨addr, .text addr⟩], match outcome 0 with | none => .ok () | some e => .error e)
  else match setting.protection with
  | .error e => ([], .error e)
  | .ok p =>
      match net.splitHostPort addr with
      | .error e => ([], .error ("invalid dial address " ++ addr ++ ": " ++ e))
      | .ok (host, portText) =>
          match atoi portText with
          | none => ([], .error ("invalid port: " ++ portText))
          | some port =>
              match p.validateNetworkTarget net host port with
              | .error e => ([], .error e)
              | .ok () =>
                  let attempt (ips : List IP) (lastErr : String) : List Dial × Except String Unit :=
                    let (dialed, result) := dialEach outcome lastErr 0 ips
                    (dialed.map fun ip => ⟨host, .literal ip portText⟩, result)
                  match net.parseIP host with
                  | some ip => attempt [ip] ""
                  | none =>
                      if p.applyIPFilterForDomain = false then
                        ([⟨host, .text addr⟩],
                          match outcome 0 with | none => .ok () | some e => .error e)
                      else match resolved with
                      | .error e => ([], .error ("DNS resolution failed for " ++ host ++ ": " ++ e))
                      | .ok ips =>
                          match p.validateResolvedIPs net host (usableIPs network ips) with
                          | .error e => ([], .error e)
                          | .ok () =>
                              attempt (usableIPs network ips)
                                ("DNS resolution for " ++ host ++
                                  " returned no usable IP addresses")

/-! ## The client -/

/-- Where a fetch is with its current request. -/
inductive FetchPhase where
  /-- The request is to be sent. -/
  | ready
  /-- The transport has it. -/
  | sent
  | over
  deriving DecidableEq, Repr

/-- A fetch: the URL of the current request, how many requests there were, how many redirects were
followed, and what was dialed. -/
structure Fetch where
  url : String
  phase : FetchPhase := .ready
  requests : Nat := 0
  followed : Nat := 0
  dialed : List Dial := []
  deriving DecidableEq, Repr

/-- What may happen to a fetch. -/
inductive FetchEvent where
  /-- `RoundTrip` gets the request. -/
  | roundTrip (lookup : Except String (List IP))
  /-- The transport dials, for this request or an earlier one. -/
  | dial (network addr : String) (resolved : Except String (List (Option IP)))
      (outcome : Nat → Option String)
  /-- The server answers with a redirect, for which `CheckRedirect` is asked. -/
  | redirect (url : String) (lookup : Except String (List IP))

/-- `checkProtectedFetchRedirect`, after `via` requests. -/
def FetchSetting.checkProtectedFetchRedirect (setting : FetchSetting) (net : GoNet) (url : String)
    (lookup : Except String (List IP)) (via : Nat) : Except String Unit :=
  match setting.validateSSRFProtectedFetchURL net url lookup with
  | .error e => .error ("redirect to " ++ url ++ " blocked: " ++ e)
  | .ok () => if 10 ≤ via then .error "stopped after 10 redirects" else .ok ()

namespace Fetch
variable (setting : FetchSetting) (net : GoNet)

/-- One step of a fetch without a proxy. -/
def apply (s : Fetch) : FetchEvent → Option Fetch
  | .roundTrip lookup =>
      if s.phase ≠ .ready then none
      else match setting.validateSSRFProtectedFetchURL net s.url lookup with
      | .error _ => some { s with phase := .over, requests := s.requests + 1 }
      | .ok () => some { s with phase := .sent, requests := s.requests + 1 }
  | .dial network addr resolved outcome =>
      let (dialed, _) := setting.dialContext net network addr resolved outcome
      some { s with dialed := s.dialed ++ dialed }
  | .redirect url lookup =>
      if s.phase ≠ .sent then none
      else match setting.checkProtectedFetchRedirect net url lookup s.requests with
      | .error _ => some { s with phase := .over }
      | .ok () => some { s with url := url, phase := .ready, followed := s.followed + 1 }

/-- A step. -/
def Step (s : Fetch) (e : FetchEvent) (s' : Fetch) : Prop := s.apply setting net e = some s'

/-! ## What is dialed -/

/-- What may be dialed: an address that is allowed, with a port that is allowed, for a host that,
without the blanks around it, is an allowed address or an allowed domain. -/
structure Permitted (p : SSRFProtection) (d : Dial) : Prop where
  address : ∃ ip portText port, d.address = .literal ip portText ∧
    p.isIPAccessAllowed net ip = true ∧ atoi portText = some port ∧ p.isAllowedPort port = true
  host : (∃ ip, net.parseIP (trimSpace d.host) = some ip ∧ p.isIPAccessAllowed net ip = true) ∨
    p.isDomainAllowed net (trimSpace d.host) = true

/-- Only the addresses that are given are dialed. -/
theorem dialEach_subset (outcome : Nat → Option String) (lastErr : String) (i : Nat)
    (ips : List IP) : ∀ ip ∈ (dialEach outcome lastErr i ips).1, ip ∈ ips := by
  induction ips generalizing lastErr i with
  | nil => simp [dialEach]
  | cons ip ips ih =>
    intro other hoth
    simp only [dialEach] at hoth
    split at hoth
    · exact mem_cons.mpr (.inl (mem_singleton.mp hoth))
    rename_i e _
    rcases mem_cons.mp hoth with rfl | hre
    · exact mem_cons_self ..
    · exact mem_cons_of_mem _ (ih e (i + 1) other hre)

variable {setting : FetchSetting} {net : GoNet}

/-- **Everything that `DialContext` dials is permitted.** -/
theorem dialContext_permitted (hen : setting.enableSSRFProtection = true)
    (hfil : setting.applyIPFilterForDomain = true) {network addr : String}
    {resolved : Except String (List (Option IP))} {outcome : Nat → Option String} :
    ∀ d ∈ (setting.dialContext net network addr resolved outcome).1,
      ∃ p, setting.protection = .ok p ∧ Permitted net p d := by
  intro d hd
  rw [FetchSetting.dialContext, if_neg (by simp [hen])] at hd
  cases hp : setting.protection with
  | error e =>
    simp only [hp] at hd
    cases hd
  | ok p =>
    refine ⟨p, rfl, ?_⟩
    simp only [hp] at hd
    split at hd
    · cases hd
    rename_i host portText _
    split at hd
    · cases hd
    rename_i port hpo
    split at hd
    · cases hd
    rename_i hval
    obtain ⟨hall, hho⟩ := SSRFProtection.validateNetworkTarget_ok hval
    have hfr : (∃ ip, net.parseIP (trimSpace host) = some ip ∧
        p.isIPAccessAllowed net ip = true) ∨ p.isDomainAllowed net (trimSpace host) = true :=
      hho.imp_right And.right
    -- whatever list is tried, only its addresses are dialed
    have hatt : ∀ (ips : List IP) (lastErr : String),
        (∀ ip ∈ ips, p.isIPAccessAllowed net ip = true) →
        d ∈ (dialEach outcome lastErr 0 ips).1.map (fun ip => ⟨host, .literal ip portText⟩) →
        Permitted net p d := by
      intro ips lastErr hips hmem
      obtain ⟨ip, hip, rfl⟩ := mem_map.mp hmem
      have hok := hips ip (dialEach_subset outcome lastErr 0 ips ip hip)
      exact ⟨⟨ip, portText, port, rfl, hok, hpo, hall⟩, hfr⟩
    cases hpar : net.parseIP host with
    | some ip =>
      simp only [hpar] at hd
      refine hatt [ip] "" ?_ hd
      intro other hoth
      rw [mem_singleton.mp hoth]
      exact SSRFProtection.validateNetworkTarget_literal hval hpar
    | none =>
      simp only [hpar] at hd
      rw [if_neg (by simp [FetchSetting.protection_applies hp, hfil])] at hd
      split at hd
      · cases hd
      split at hd
      · cases hd
      rename_i hres
      exact hatt _ _ (SSRFProtection.validateResolvedIPs_ok hres) hd

/-! ## Steps and runs -/

/-- All that was dialed is permitted, and each redirect that was followed came after a request,
and after fewer than ten. -/
structure Safe (setting : FetchSetting) (net : GoNet) (s : Fetch) : Prop where
  permitted : ∀ d ∈ s.dialed, ∃ p, setting.protection = .ok p ∧ Permitted net p d
  followed_le : s.followed ≤ s.requests
  followed_lt : s.phase = .sent → s.followed < s.requests
  bounded : s.followed < 10

theorem safe_step (hen : setting.enableSSRFProtection = true)
    (hfil : setting.applyIPFilterForDomain = true) {s s' : Fetch} {e : FetchEvent}
    (h : Safe setting net s) (hst : Step setting net s e s') : Safe setting net s' := by
  obtain ⟨hper, hle, hlt, hbdd⟩ := h
  rcases e with lookup | ⟨network, addr, resolved, outcome⟩ | ⟨url, lookup⟩
  · simp only [Step, apply] at hst
    split at hst
    · cases hst
    split at hst
    all_goals
      cases hst
      exact ⟨hper, Nat.le_succ_of_le hle, fun _ => Nat.lt_succ_of_le hle, hbdd⟩
  · cases hst
    refine ⟨fun d hd => ?_, hle, hlt, hbdd⟩
    rcases mem_append.mp hd with hold | hnew
    · exact hper d hold
    · exact dialContext_permitted hen hfil d hnew
  · simp only [Step, apply] at hst
    split at hst
    · cases hst
    rename_i hse
    have hfol : s.followed < s.requests := hlt (not_not.mp hse)
    cases hche : setting.checkProtectedFetchRedirect net url lookup s.requests with
    | error e =>
      simp only [hche, Option.some.injEq] at hst
      subst hst
      exact ⟨hper, hle, nofun, hbdd⟩
    | ok _ =>
      simp only [hche, Option.some.injEq] at hst
      subst hst
      have hvia : s.requests < 10 := by
        rw [FetchSetting.checkProtectedFetchRedirect] at hche
        split at hche
        · cases hche
        by_contra hma
        rw [if_pos (Nat.le_of_not_lt hma)] at hche
        cases hche
      refine ⟨hper, hfol, nofun, ?_⟩
      show s.followed + 1 < 10
      omega

/-- **A protected fetch dials allowed addresses only**, whatever the server and the resolver
answer, and follows fewer than ten redirects. -/
theorem dials_permitted (setting : FetchSetting) (net : GoNet) (url : String)
    (henabled : setting.enableSSRFProtection = true)
    (hfilter : setting.applyIPFilterForDomain = true) {es : List FetchEvent} {s : Fetch}
    (hrun : Run (Step setting net) { url := url } es s) :
    (∀ d ∈ s.dialed, ∃ p, setting.protection = .ok p ∧ Permitted net p d) ∧ s.followed ≤ 10 := by
  have hstr : Safe setting net { url := url } := ⟨nofun, Nat.le_refl 0, nofun, Nat.zero_lt_succ 9⟩
  have hsa := hrun.invariant (fun _ _ _ h hst => safe_step henabled hfilter h hst) hstr
  exact ⟨hsa.permitted, Nat.le_of_lt hsa.bounded⟩

/-- A library that reads two hosts. -/
def twoHosts : GoNet where
  parseIP s := if s = "8.8.8.8" then some (mapped (v4 8 8 8 8)) else none
  parseCIDR _ := none
  ipString _ := ""
  splitHostPort s :=
    if s = "files.example:80" then .ok ("files.example", "80")
    else if s = "\u00a08.8.8.8:80" then .ok ("\u00a08.8.8.8", "80")
    else .error "missing port in address"
  parseURL s :=
    if s = "http://files.example/a" then .ok ⟨"http", "files.example", "files.example"⟩
    else if s = "http://\u00a08.8.8.8/" then .ok ⟨"http", "\u00a08.8.8.8", "\u00a08.8.8.8"⟩
    else .error "invalid URL"
  toLower := id
  trimSpace_of_parseIP := by
    intro s ip h
    split at h
    · rename_i hs
      rw [hs]
      decide
    · cases h

/-- Only files from one domain, and no private addresses. -/
def oneDomain : FetchSetting where
  enableSSRFProtection := true
  allowPrivateIp := false
  domainFilterMode := true
  ipFilterMode := false
  domainList := ["files.example"]
  ipList := []
  allowedPorts := ["80"]
  applyIPFilterForDomain := true

/-- The resolver answers the check with a public address, then the dialer with a private one, and
then with two public ones of which the first does not answer. -/
def reboundFetch : List FetchEvent :=
  [.roundTrip (.ok [mapped (v4 1 1 1 1)]),
    .dial "tcp" "files.example:80" (.ok [some (mapped (v4 10 0 0 1))]) (fun _ => none),
    .dial "tcp" "files.example:80"
      (.ok [some (mapped (v4 1 1 1 1)), some (mapped (v4 8 8 8 8))])
      (fun i => if i = 0 then some "refused" else none)]

theorem dials_permitted_rebound :
    ∃ s, Run (Step oneDomain twoHosts) { url := "http://files.example/a" } reboundFetch s ∧
      s.dialed = [⟨"files.example", .literal (mapped (v4 1 1 1 1)) "80"⟩,
        ⟨"files.example", .literal (mapped (v4 8 8 8 8)) "80"⟩] ∧
      (∀ d ∈ s.dialed, ∃ p, oneDomain.protection = .ok p ∧ Permitted twoHosts p d) := by
  have hrun : Run (Step oneDomain twoHosts) { url := "http://files.example/a" } reboundFetch _ :=
    Run.foldlM (fun _ _ _ h => h) rfl
  refine ⟨_, hrun, ?_, (dials_permitted oneDomain twoHosts _ rfl rfl hrun).1⟩
  decide +kernel

/-- **A host may have blanks around it.**  An address after a no-break space passes as that
address, but is looked up as a name: what is dialed is allowed, the host is neither an address
nor an allowed domain. -/
theorem padded_host_dialed :
    ([FetchEvent.roundTrip (.ok [mapped (v4 1 1 1 1)]),
      .dial "tcp" "\u00a08.8.8.8:80" (.ok [some (mapped (v4 1 1 1 1))])
        (fun _ => none)].foldlM
      (apply oneDomain twoHosts) { url := "http://\u00a08.8.8.8/" }).map dialed =
        some [⟨"\u00a08.8.8.8", .literal (mapped (v4 1 1 1 1)) "80"⟩] ∧
    twoHosts.parseIP "\u00a08.8.8.8" = none ∧
    oneDomain.protection.toOption.map (fun p => p.isDomainAllowed twoHosts "\u00a08.8.8.8") =
      some false := by
  decide +kernel

end Fetch

end NewApi
