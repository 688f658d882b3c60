import Girasol.Settings

/-!
# The QUIC endpoint of NextBlock

One string is checked as a URL when the settings are validated and split into
host and port when the sender is built.  What the `url` crate does with a string
is a parameter, of which the URL Standard is assumed.
-/

namespace Girasol

open Foundation

/-! ## Host and port -/

def splitAtLast {α : Type*} [DecidableEq α] (a : α) : List α → Option (List α × List α)
  | [] => none
  | x :: xs =>
      match splitAtLast a xs with
      | some (before, behind) => some (x :: before, behind)
      | none => if x = a then some ([], xs) else none

def parseHostPort (s : String) (defaultPort : Nat) : String × Nat :=
  match splitAtLast ':' s.toList with
  | some (host, rest) =>
      match parseUnsigned (2 ^ 16) (String.ofList rest) with
      | .ok port => (String.ofList host, port)
      | .error _ => (s, defaultPort)
  | none => (s, defaultPort)

def defaultQuicPort : Nat := 9443

structure QuicEndpointConfig where
  host : String
  port : Nat
  deriving DecidableEq, Repr

def QuicEndpointConfig.ofEndpoint (endpoint : String) : QuicEndpointConfig :=
  let (host, port) := parseHostPort endpoint defaultQuicPort
  ⟨host, port⟩

section

variable {α : Type*} [DecidableEq α] {a : α} {xs before behind : List α}

@[simp] theorem splitAtLast_eq_none_iff : splitAtLast a xs = none ↔ a ∉ xs := by
  induction xs with
  | nil => simp [splitAtLast]
  | cons x xs ih =>
      rw [splitAtLast]
      cases hrest : splitAtLast a xs with
      | some parts =>
          have hmem : a ∈ xs := by
            by_contra h
            simp [ih.mpr h] at hrest
          simp [hmem]
      | none =>
          have hmem := ih.mp hrest
          by_cases hx : x = a
          · simp [hx]
          · simp [hx, hmem, Ne.symm hx]

theorem splitAtLast_append (hbehind : a ∉ behind) :
    splitAtLast a (before ++ a :: behind) = some (before, behind) := by
  induction before with
  | nil => simp [splitAtLast, splitAtLast_eq_none_iff.mpr hbehind]
  | cons x before ih => rw [List.cons_append, splitAtLast, ih]

theorem eq_of_splitAtLast (h : splitAtLast a xs = some (before, behind)) :
    xs = before ++ a :: behind ∧ a ∉ behind := by
  induction xs generalizing before with
  | nil => cases h
  | cons x xs ih =>
      rw [splitAtLast] at h
      cases hrest : splitAtLast a xs with
      | some parts =>
          obtain ⟨before', behind'⟩ := parts
          simp only [hrest, Option.some.injEq, Prod.mk.injEq] at h
          obtain ⟨rfl, rfl⟩ := h
          obtain ⟨hxs, hnot⟩ := ih hrest
          exact ⟨by rw [hxs, List.cons_append], hnot⟩
      | none =>
          simp only [hrest, Option.ite_none_right_eq_some, Option.some.injEq,
            Prod.mk.injEq] at h
          obtain ⟨rfl, rfl, rfl⟩ := h
          exact ⟨rfl, splitAtLast_eq_none_iff.mp hrest⟩

end

/-! ## The values that the setting documents -/

def isHostLabel (label : List Char) : Bool :=
  !label.isEmpty && label.length ≤ 63 && label.head? != some '-' && label.getLast? != some '-'

def isHost (s : String) : Bool :=
  s.length ≤ 253 && s.toList.all (fun c => c.isAlphanum || c == '-' || c == '.') &&
    (s.toList.splitOn '.').all isHostLabel

def Documented (s : String) : Prop :=
  isHost s = true ∨
    ∃ host : String, ∃ port < 2 ^ 16, isHost host = true ∧ s = host ++ ":" ++ toString port

/-- The split gives a host with neither scheme nor path, and the port behind it. -/
def SplitsBare (s : String) : Prop :=
  isHost (parseHostPort s defaultQuicPort).1 = true ∧
    (parseHostPort s defaultQuicPort = (s, defaultQuicPort) ∨
      ∃ host text port, s = host ++ ":" ++ text ∧ parseUnsigned (2 ^ 16) text = .ok port ∧
        parseHostPort s defaultQuicPort = (host, port))

/-! ## The URL Standard -/

def specialSchemes : List (List Char) :=
  ["http".toList, "https".toList, "ws".toList, "wss".toList, "ftp".toList]

def isScheme : List Char → Bool
  | [] => false
  | c :: cs => c.isAlpha && cs.all fun c => c.isAlphanum || c == '+' || c == '-' || c == '.'

def isControlOrSpace (c : Char) : Bool := c.toNat ≤ 0x20

def cleanUrl (cs : List Char) : List Char :=
  ((cs.dropWhile isControlOrSpace).reverse.dropWhile isControlOrSpace).reverse.filter
    fun c => c != '\t' && c != '\n' && c != '\r'

/-- What the URL Standard says of a parser that is given no base URL. -/
structure UrlStandard (parse : String → Except String Url) : Prop where
  /-- Only a text with a scheme is parsed. -/
  absolute : ∀ s url, parse s = .ok url → ∃ scheme rest,
    cleanUrl s.toList = scheme ++ ':' :: rest ∧ isScheme scheme = true ∧
      url.scheme = String.ofList (scheme.map Char.toLower)
  /-- Outside the special schemes there is no host without slashes. -/
  hostless : ∀ s url scheme rest, parse s = .ok url → cleanUrl s.toList = scheme ++ ':' :: rest →
    isScheme scheme = true → scheme.map Char.toLower ∉ specialSchemes →
    rest.head? ≠ some '/' → rest.head? ≠ some '\\' → url.host = none
  /-- After a special scheme, a number is the IPv4 address with this value. -/
  numeric : ∀ scheme number, isScheme scheme = true → scheme.map Char.toLower ∈ specialSchemes →
    number < 2 ^ 32 → ∃ host, host ≠ "" ∧
      parse (String.ofList scheme ++ ":" ++ toString number) =
        .ok ⟨String.ofList (scheme.map Char.toLower), some host⟩

/-- The trimmed text is an absolute URL with a host. -/
def HasUrlHost (p : Platform) (s : String) : Prop :=
  ∃ url, p.parseUrl (trim s) = .ok url ∧ url.host.getD "" ≠ ""

/-- A special scheme and a port after it, without slashes. -/
def SchemeAndPort (s : String) : Prop :=
  ∃ scheme text port, s = scheme ++ ":" ++ text ∧
    scheme.toList.map Char.toLower ∈ specialSchemes ∧ parseUnsigned (2 ^ 16) text = .ok port

/-- Valid settings stay valid with this endpoint. -/
def Accepts {p : Platform} (cfg : ValidSettings p) (endpoint : String) : Prop :=
  { cfg.val with nextblockQuicEndpoint := some endpoint }.validate p = .ok ()

/-! ## Validation -/

section

variable {p : Platform}

private theorem validateUrls_endpoint {s : Settings} (hok : s.validateUrls p = .ok ())
    (endpoint : String) :
    { s with nextblockQuicEndpoint := some endpoint }.validateUrls p = .ok () ↔
      Settings.validateNonEmptyUrl p endpoint "nextblock_quic_endpoint" = .ok () := by
  simp only [Settings.validateUrls, bind_eq_ok] at hok ⊢
  obtain ⟨⟨⟩, hrpc, ⟨⟩, hrpcs, ⟨⟩, hws, ⟨⟩, hwss, ⟨⟩, hhelius, ⟨⟩, hjito, ⟨⟩, hbloxroute, ⟨⟩,
    hnextblock, ⟨⟩, hshreds, ⟨⟩, hgeyser, hrest⟩ := hok
  have hlater : s.validatePumpportal p = .ok () ∧
      Settings.validateUrlList (Settings.validateHttpUrl p) "zeroslot_endpoints"
        s.zeroslotEndpoints = .ok () := by
    cases hquic : s.nextblockQuicEndpoint with
    | none =>
        simp only [hquic, bind_eq_ok] at hrest
        obtain ⟨⟨⟩, hpumpportal, hzeroslot⟩ := hrest
        exact ⟨hpumpportal, hzeroslot⟩
    | some url =>
        simp only [hquic, bind_eq_ok] at hrest
        obtain ⟨⟨⟩, -, ⟨⟩, hpumpportal, hzeroslot⟩ := hrest
        exact ⟨hpumpportal, hzeroslot⟩
  constructor
  · rintro ⟨⟨⟩, -, ⟨⟩, -, ⟨⟩, -, ⟨⟩, -, ⟨⟩, -, ⟨⟩, -, ⟨⟩, -, ⟨⟩, -, ⟨⟩, -, ⟨⟩, -, ⟨⟩, hquic, -⟩
    exact hquic
  · intro hquic
    exact ⟨⟨⟩, hrpc, ⟨⟩, hrpcs, ⟨⟩, hws, ⟨⟩, hwss, ⟨⟩, hhelius, ⟨⟩, hjito, ⟨⟩, hbloxroute, ⟨⟩,
      hnextblock, ⟨⟩, hshreds, ⟨⟩, hgeyser, ⟨⟩, hquic, ⟨⟩, hlater.1, hlater.2⟩

theorem accepts_iff_validate (cfg : ValidSettings p) (endpoint : String) :
    Accepts cfg endpoint ↔
      Settings.validateNonEmptyUrl p endpoint "nextblock_quic_endpoint" = .ok () := by
  have hok := cfg.property
  simp only [Accepts, Settings.validate, bind_eq_ok] at hok ⊢
  obtain ⟨⟨⟩, htp, ⟨⟩, hsl, ⟨⟩, hbuy, ⟨⟩, htimeout, ⟨⟩, hcache, ⟨⟩, hcoins, ⟨⟩, hliquidity, ⟨⟩,
    hcopy, ⟨⟩, hreplay, ⟨⟩, hprogram, ⟨⟩, hkeypairs, hurls⟩ := hok
  constructor
  · rintro ⟨⟨⟩, -, ⟨⟩, -, ⟨⟩, -, ⟨⟩, -, ⟨⟩, -, ⟨⟩, -, ⟨⟩, -, ⟨⟩, -, ⟨⟩, -, ⟨⟩, -, ⟨⟩, -, hnew⟩
    exact (validateUrls_endpoint hurls endpoint).mp hnew
  · intro hquic
    exact ⟨⟨⟩, htp, ⟨⟩, hsl, ⟨⟩, hbuy, ⟨⟩, htimeout, ⟨⟩, hcache, ⟨⟩, hcoins, ⟨⟩, hliquidity, ⟨⟩,
      hcopy, ⟨⟩, hreplay, ⟨⟩, hprogram, ⟨⟩, hkeypairs, (validateUrls_endpoint hurls endpoint).mpr
        hquic⟩

private theorem scheme_of_parseUrl (hurl : UrlStandard p.parseUrl) {s : String} {url : Url}
    (hparse : p.parseUrl s = .ok url) : s ≠ "" ∧ url.scheme ≠ "" := by
  obtain ⟨scheme, rest, hclean, hscheme, hlower⟩ := hurl.absolute s url hparse
  constructor
  · rintro rfl
    simp [cleanUrl] at hclean
  · rw [hlower]
    intro hempty
    have hnil : scheme = [] := by simpa using congrArg String.toList hempty
    rw [hnil] at hscheme
    cases hscheme

private theorem validateNonEmptyUrl_iff (hurl : UrlStandard p.parseUrl) {endpoint field : String} :
    Settings.validateNonEmptyUrl p endpoint field = .ok () ↔ HasUrlHost p endpoint := by
  unfold Settings.validateNonEmptyUrl Settings.validateUrl HasUrlHost
  dsimp only
  cases hparse : p.parseUrl (trim endpoint) with
  | error e => split <;> simp
  | ok url =>
      obtain ⟨htext, hscheme⟩ := scheme_of_parseUrl hurl hparse
      by_cases hhost : url.host.getD "" = ""
      · simp [htext, hscheme, hhost]
      · simp [htext, hscheme, hhost]

theorem accepts_iff_hasUrlHost (hurl : UrlStandard p.parseUrl) (cfg : ValidSettings p)
    (endpoint : String) : Accepts cfg endpoint ↔ HasUrlHost p endpoint := by
  rw [accepts_iff_validate, validateNonEmptyUrl_iff hurl]

end

/-! ## The characters of hosts and ports -/

def IsPlain (c : Char) : Prop :=
  33 ≤ c.toNat ∧ c.toNat ≤ 126 ∧ c ≠ ':' ∧ c ≠ '/' ∧ c ≠ '\\'

instance (c : Char) : Decidable (IsPlain c) := inferInstanceAs (Decidable (_ ∧ _))

theorem isPlain_of_isAlphanum {c : Char} (h : c.isAlphanum = true) : IsPlain c := by
  have hrange : 48 ≤ c.toNat ∧ c.toNat ≤ 57 ∨ 65 ≤ c.toNat ∧ c.toNat ≤ 90 ∨
      97 ≤ c.toNat ∧ c.toNat ≤ 122 := by
    have hbounds : c.isAlphanum = (decide (65 ≤ c.val ∧ c.val ≤ 90) ||
        97 ≤ c.val && c.val ≤ 122 || 48 ≤ c.val && c.val ≤ 57) := rfl
    rw [hbounds] at h
    simp only [Bool.or_eq_true, Bool.and_eq_true, decide_eq_true_eq, UInt32.le_iff_toNat_le,
      Char.toNat_val] at h
    simp at h
    omega
  refine ⟨by omega, by omega, ?_, ?_, ?_⟩ <;> rintro rfl <;> simp at hrange

theorem isPlain_of_isHost {s : String} (h : isHost s = true) : ∀ c ∈ s.toList, IsPlain c := by
  intro c hc
  simp only [isHost, Bool.and_eq_true, List.all_eq_true, Bool.or_eq_true, beq_iff_eq] at h
  obtain (hletter | rfl) | rfl := h.1.2 c hc
  · exact isPlain_of_isAlphanum hletter
  · decide
  · decide

theorem isPlain_of_parseUnsigned {bound n : Nat} {text : String}
    (h : parseUnsigned bound text = .ok n) : text ≠ "" ∧ ∀ c ∈ text.toList, IsPlain c := by
  have hdigits {cs : List Char} (hall : cs.all Char.isDigit = true) : ∀ c ∈ cs, IsPlain c := by
    intro c hc
    have hdigit := List.all_eq_true.mp hall c hc
    exact isPlain_of_isAlphanum (by simp [Char.isAlphanum, hdigit])
  have hne : text ≠ "" := by
    rintro rfl
    simp [parseUnsigned] at h
  refine ⟨hne, ?_⟩
  simp only [parseUnsigned] at h
  split_ifs at h with hempty hall hlt
  split at hall
  case h_1 rest hplus =>
    rw [hplus]
    intro c hc
    obtain rfl | hrest := List.mem_cons.mp hc
    · decide
    · exact hdigits hall c hrest
  case h_2 => exact hdigits hall

@[simp] theorem dropWhile_eq_self {α : Type*} {P : α → Bool} {xs : List α}
    (h : ∀ x ∈ xs, P x = false) :
    xs.dropWhile P = xs := by
  cases xs with
  | nil => rfl
  | cons x xs => rw [List.dropWhile_cons, h x List.mem_cons_self, if_neg Bool.false_ne_true]

private theorem trim_visible {s : String} (h : ∀ c ∈ s.toList, 33 ≤ c.toNat ∧ c.toNat ≤ 126) :
    trim s = s ∧ cleanUrl s.toList = s.toList := by
  have hwhite : ∀ c ∈ s.toList, isWhitespace c = false := by
    intro c hc
    have hrange := h c hc
    simp only [isWhitespace, Bool.or_eq_false_iff, Bool.and_eq_false_iff, decide_eq_false_iff_not,
      beq_eq_false_iff_ne]
    omega
  have hcontrol : ∀ c ∈ s.toList, isControlOrSpace c = false := by
    intro c hc
    have hrange := h c hc
    simp only [isControlOrSpace, decide_eq_false_iff_not]
    omega
  constructor
  · rw [trim, dropWhile_eq_self hwhite, dropWhile_eq_self (by simpa using hwhite),
      List.reverse_reverse, String.ofList_toList]
  · rw [cleanUrl, dropWhile_eq_self hcontrol, dropWhile_eq_self (by simpa using hcontrol),
      List.reverse_reverse, List.filter_eq_self]
    intro c hc
    have hrange := h c hc
    have hne (d : Char) (hd : d.toNat < 33) : c ≠ d := by
      rintro rfl
      omega
    simp [hne '\t' (by decide), hne '\n' (by decide), hne '\r' (by decide)]

theorem mem_of_mem_cleanUrl {s : String} {c : Char} (h : c ∈ cleanUrl (trim s).toList) :
    c ∈ s.toList := by
  have htrim {P : Char → Bool} {cs : List Char}
      (hc : c ∈ ((cs.dropWhile P).reverse.dropWhile P).reverse) : c ∈ cs := by
    have hsub := List.mem_reverse.mp ((List.dropWhile_suffix P).subset (List.mem_reverse.mp hc))
    exact (List.dropWhile_suffix P).subset hsub
  have hclean := htrim (List.mem_of_mem_filter h)
  rw [trim, String.toList_ofList] at hclean
  exact htrim hclean

@[simp] theorem toList_hostPort (host text : String) :
    (host ++ ":" ++ text).toList = host.toList ++ ':' :: text.toList := by
  simp [String.toList_append]

theorem trim_hostPort {host text : String} (hhost : ∀ c ∈ host.toList, IsPlain c)
    (htext : ∀ c ∈ text.toList, IsPlain c) :
    trim (host ++ ":" ++ text) = host ++ ":" ++ text ∧
      cleanUrl (host ++ ":" ++ text).toList = host.toList ++ ':' :: text.toList := by
  rw [← toList_hostPort]
  refine trim_visible ?_
  rw [toList_hostPort]
  intro c hc
  obtain hc | hc := List.mem_append.mp hc
  · exact ⟨(hhost c hc).1, (hhost c hc).2.1⟩
  · obtain rfl | hc := List.mem_cons.mp hc
    · decide
    · exact ⟨(htext c hc).1, (htext c hc).2.1⟩

theorem colon_notMem {cs : List Char} (h : ∀ c ∈ cs, IsPlain c) : ':' ∉ cs :=
  fun hmem => (h ':' hmem).2.2.1 rfl

/-! ## What the split gives -/

theorem parseHostPort_port {host text : String} {port : Nat}
    (hport : parseUnsigned (2 ^ 16) text = .ok port) (defaultPort : Nat) :
    parseHostPort (host ++ ":" ++ text) defaultPort = (host, port) := by
  have hcolon := colon_notMem (isPlain_of_parseUnsigned hport).2
  rw [parseHostPort, toList_hostPort, splitAtLast_append hcolon]
  simp only [String.ofList_toList, hport]

theorem parseHostPort_cases (s : String) (defaultPort : Nat) :
    parseHostPort s defaultPort = (s, defaultPort) ∨
      ∃ host text port, s = host ++ ":" ++ text ∧ parseUnsigned (2 ^ 16) text = .ok port ∧
        parseHostPort s defaultPort = (host, port) := by
  unfold parseHostPort
  cases hsplit : splitAtLast ':' s.toList with
  | none => exact .inl rfl
  | some parts =>
      obtain ⟨host, rest⟩ := parts
      dsimp only
      cases hport : parseUnsigned (2 ^ 16) (String.ofList rest) with
      | error e => exact .inl rfl
      | ok port =>
          have hs : s = String.ofList host ++ ":" ++ String.ofList rest := by
            rw [← String.toList_inj, toList_hostPort, String.toList_ofList, String.toList_ofList]
            exact (eq_of_splitAtLast hsplit).1
          exact .inr ⟨_, _, port, hs, hport, rfl⟩

/-! ## Special schemes as hosts -/

private theorem isAlpha_of_toLower {c : Char} (h : c.toLower.isAlpha = true) :
    c.isAlpha = true := by
  have halpha : c.isAlpha = (c.isUpper || c.isLower) := rfl
  have hbounds : c.isUpper = decide (65 ≤ c.val ∧ c.val ≤ 90) := rfl
  by_cases hupper : c.isUpper = true
  · rw [halpha, hupper, Bool.true_or]
  · have hsame : c.toLower = c := by
      unfold Char.toLower
      refine dif_neg fun hrange => hupper ?_
      rw [hbounds]
      simpa using hrange
    rwa [hsame] at h

theorem isAlpha_of_specialScheme {scheme : List Char}
    (h : scheme.map Char.toLower ∈ specialSchemes) :
    (∀ c ∈ scheme, c.isAlpha = true) ∧ 0 < scheme.length ∧ scheme.length ≤ 5 := by
  have hletters : (specialSchemes.all fun lower =>
      lower.all Char.isAlpha && 0 < lower.length && lower.length ≤ 5) = true := by
    decide +kernel
  have hone := List.all_eq_true.mp hletters _ h
  simp only [Bool.and_eq_true, List.all_eq_true, decide_eq_true_eq] at hone
  obtain ⟨⟨hall, hpos⟩, hlen⟩ := hone
  rw [List.length_map] at hpos hlen
  exact ⟨fun c hc => isAlpha_of_toLower (hall c.toLower (List.mem_map_of_mem hc)), hpos, hlen⟩

theorem isScheme_of_specialScheme {scheme : List Char}
    (h : scheme.map Char.toLower ∈ specialSchemes) : isScheme scheme = true := by
  obtain ⟨hall, hpos, -⟩ := isAlpha_of_specialScheme h
  cases scheme with
  | nil => simp at hpos
  | cons c cs =>
      simp only [List.forall_mem_cons] at hall
      simp only [isScheme, hall.1, Bool.true_and, List.all_eq_true]
      intro d hd
      simp [Char.isAlphanum, hall.2 d hd]

theorem isHost_of_specialScheme {scheme : String}
    (h : scheme.toList.map Char.toLower ∈ specialSchemes) : isHost scheme = true := by
  obtain ⟨hall, hpos, hlen⟩ := isAlpha_of_specialScheme h
  have hnot (d : Char) (hd : d.isAlpha = false) : d ∉ scheme.toList := by
    intro hmem
    simp [hall d hmem] at hd
  have hdash := hnot '-' rfl
  have hlabel : isHostLabel scheme.toList = true := by
    have hnil : scheme.toList ≠ [] := List.length_pos_iff.mp hpos
    have hhead : scheme.toList.head? ≠ some '-' := fun hc => hdash (List.mem_of_head? hc)
    have hlast : scheme.toList.getLast? ≠ some '-' := fun hc => hdash (List.mem_of_getLast? hc)
    have hshort : scheme.toList.length ≤ 63 := by omega
    simp [isHostLabel, hnil, hhead, hlast, hshort]
  have hchars : scheme.toList.all (fun c => c.isAlphanum || c == '-' || c == '.') = true := by
    rw [List.all_eq_true]
    intro c hc
    simp [Char.isAlphanum, hall c hc]
  have hlength : scheme.length ≤ 253 := by
    rw [← String.length_toList]
    omega
  rw [isHost, List.splitOn_eq_singleton (hnot '.' rfl), hchars]
  simp [hlength, hlabel]

/-! ## Which endpoints can be used -/

private theorem schemeAndPort_of_splitsBare {p : Platform} (hurl : UrlStandard p.parseUrl)
    {s : String} (haccepted : HasUrlHost p s) (hbare : SplitsBare s) : SchemeAndPort s := by
  obtain ⟨url, hparse, hhost⟩ := haccepted
  obtain ⟨scheme, rest, hclean, hscheme, -⟩ := hurl.absolute _ _ hparse
  obtain ⟨hishost, -⟩ := hbare
  obtain hwhole | ⟨host, text, port, rfl, hport, hsplit⟩ := parseHostPort_cases s defaultQuicPort
  · rw [hwhole] at hishost
    have hcolon : ':' ∈ s.toList := mem_of_mem_cleanUrl (by rw [hclean]; simp)
    exact absurd hcolon (colon_notMem (isPlain_of_isHost hishost))
  · rw [hsplit] at hishost
    have hhostChars := isPlain_of_isHost hishost
    obtain ⟨htext, htextChars⟩ := isPlain_of_parseUnsigned hport
    obtain ⟨htrim, hsame⟩ := trim_hostPort hhostChars htextChars
    rw [htrim] at hclean hparse
    obtain ⟨hnames, -, hrest⟩ := (List.append_cons_inj_of_notMem (colon_notMem hhostChars)
      (colon_notMem htextChars)).mp (hsame.symm.trans hclean)
    subst hnames hrest
    refine ⟨host, text, port, rfl, ?_, hport⟩
    by_contra hordinary
    have hstart (d : Char) (hd : ¬IsPlain d) : text.toList.head? ≠ some d :=
      fun h => hd (htextChars d (List.mem_of_head? h))
    rw [hurl.hostless _ url _ _ hparse hclean hscheme hordinary (hstart '/' (by decide))
      (hstart '\\' (by decide))] at hhost
    exact hhost rfl

private theorem splitsBare_of_schemeAndPort {s : String} (h : SchemeAndPort s) : SplitsBare s := by
  obtain ⟨scheme, text, port, rfl, hspecial, hport⟩ := h
  have hsplit := @parseHostPort_port scheme text port hport defaultQuicPort
  refine ⟨?_, .inr ⟨scheme, text, port, rfl, hport, hsplit⟩⟩
  rw [hsplit]
  exact isHost_of_specialScheme hspecial

private theorem hasUrlHost_of_documented {p : Platform} (hurl : UrlStandard p.parseUrl) {s : String}
    (hscheme : SchemeAndPort s) (hdocumented : Documented s) : HasUrlHost p s := by
  obtain ⟨scheme, text, port, rfl, hspecial, hport⟩ := hscheme
  have hschemeChars := isPlain_of_isHost (isHost_of_specialScheme hspecial)
  obtain ⟨-, htextChars⟩ := isPlain_of_parseUnsigned hport
  have htrim := (trim_hostPort hschemeChars htextChars).1
  obtain hhost | ⟨host, number, hnumber, hhost, hsame⟩ := hdocumented
  · have hcolon : ':' ∈ (scheme ++ ":" ++ text).toList := by
      rw [toList_hostPort]
      simp
    exact absurd hcolon (colon_notMem (isPlain_of_isHost hhost))
  · have hlists := congrArg String.toList hsame
    rw [toList_hostPort, toList_hostPort] at hlists
    obtain ⟨-, -, htext⟩ := (List.append_cons_inj_of_notMem (colon_notMem hschemeChars)
      (colon_notMem htextChars)).mp hlists
    obtain ⟨address, haddress, hparse⟩ := hurl.numeric scheme.toList number
      (isScheme_of_specialScheme hspecial) hspecial (by omega)
    rw [String.ofList_toList, ← String.toList_inj.mp htext] at hparse
    refine ⟨⟨String.ofList (scheme.toList.map Char.toLower), some address⟩, ?_, haddress⟩
    rw [htrim]
    exact hparse

/--
An endpoint of the documented form validates, and an endpoint that validates is
split into bare host and port, exactly if it is a special scheme and a port, or
neither documented nor an absolute URL with a host.
-/
theorem nextblock_quic_endpoint_iff {p : Platform} (hurl : UrlStandard p.parseUrl)
    (cfg : ValidSettings p) (endpoint : String) :
    ((Documented endpoint → Accepts cfg endpoint) ∧
        (Accepts cfg endpoint → SplitsBare endpoint)) ↔
      SchemeAndPort endpoint ∨ ¬Documented endpoint ∧ ¬HasUrlHost p endpoint := by
  rw [accepts_iff_hasUrlHost hurl]
  constructor
  · rintro ⟨hdocumented, hsplit⟩
    by_cases haccepted : HasUrlHost p endpoint
    · exact .inl (schemeAndPort_of_splitsBare hurl haccepted (hsplit haccepted))
    · exact .inr ⟨fun h => haccepted (hdocumented h), haccepted⟩
  · rintro (hscheme | ⟨hundocumented, hrejected⟩)
    · exact ⟨hasUrlHost_of_documented hurl hscheme,
        fun _ => splitsBare_of_schemeAndPort hscheme⟩
    · exact ⟨fun h => absurd h hundocumented, fun h => absurd h hrejected⟩

/-! ## A parser and two endpoints -/

def ipv4Text (n : Nat) : String :=
  toString (n / 2 ^ 24) ++ "." ++ toString (n / 2 ^ 16 % 2 ^ 8) ++ "." ++
    toString (n / 2 ^ 8 % 2 ^ 8) ++ "." ++ toString (n % 2 ^ 8)

def digitsValue (digits : List Char) : Nat :=
  digits.foldl (fun acc c => acc * 10 + (c.toNat - 48)) 0

def standardHost (special : Bool) (rest : List Char) : Option String :=
  let isSlash := fun c => c == '/' || c == '\\'
  if special || rest.head?.any isSlash then
    let host := (rest.dropWhile isSlash).takeWhile fun c => c.isAlphanum || c == '-' || c == '.'
    if host.isEmpty then none
    else if host.all Char.isDigit then some (ipv4Text (digitsValue host))
    else some (String.ofList (host.map Char.toLower))
  else none

def parseStandardUrl (s : String) : Except String Url :=
  let text := cleanUrl s.toList
  let scheme := text.takeWhile (· != ':')
  let lower := scheme.map Char.toLower
  match text.dropWhile (· != ':') with
  | ':' :: rest =>
      if isScheme scheme then
        .ok ⟨String.ofList lower, standardHost (lower ∈ specialSchemes) rest⟩
      else .error "relative URL without a base"
  | _ => .error "relative URL without a base"

private theorem colon_notMem_scheme {scheme : List Char} (h : isScheme scheme = true) :
    ':' ∉ scheme := by
  cases scheme with
  | nil => simp
  | cons c cs =>
      simp only [isScheme, Bool.and_eq_true, List.all_eq_true] at h
      rintro hmem
      obtain rfl | hmem := List.mem_cons.mp hmem
      · exact absurd h.1 (by decide)
      · exact absurd (h.2 _ hmem) (by decide)

theorem parseStandardUrl_eq {s : String} {scheme rest : List Char}
    (hclean : cleanUrl s.toList = scheme ++ ':' :: rest) (hscheme : isScheme scheme = true) :
    parseStandardUrl s = .ok ⟨String.ofList (scheme.map Char.toLower),
      standardHost (scheme.map Char.toLower ∈ specialSchemes) rest⟩ := by
  have hchars : ∀ c ∈ scheme, (c != ':') = true := by
    intro c hc
    rw [bne_iff_ne]
    rintro rfl
    exact colon_notMem_scheme hscheme hc
  have htake : (scheme ++ ':' :: rest).takeWhile (· != ':') = scheme := by
    rw [List.takeWhile_append_of_pos hchars]
    simp
  have hdrop : (scheme ++ ':' :: rest).dropWhile (· != ':') = ':' :: rest := by
    rw [List.dropWhile_append_of_pos hchars]
    simp
  simp only [parseStandardUrl, hclean, htake, hdrop, hscheme, if_true]

private theorem ipv4Text_ne_empty (n : Nat) : ipv4Text n ≠ "" := by
  intro hempty
  have hlength := congrArg String.length hempty
  simp only [ipv4Text, String.length_append] at hlength
  have hdot : ".".length = 1 := rfl
  have hnone : "".length = 0 := rfl
  omega

theorem isDigit_of_toString {number : Nat} : ∀ c ∈ (toString number).toList, c.isDigit = true := by
  intro c hc
  rw [Nat.toString_eq_repr, Nat.toList_repr] at hc
  exact Nat.isDigit_of_mem_toDigits (by omega) (by omega) hc

private theorem standardHost_number (number : Nat) :
    ∃ host, host ≠ "" ∧ standardHost true (toString number).toList = some host := by
  have hdigits := @isDigit_of_toString number
  have hne : (toString number).toList ≠ [] := by
    rw [Nat.toString_eq_repr, ne_eq, String.toList_eq_nil_iff]
    exact Nat.repr_ne_empty
  generalize (toString number).toList = digits at hdigits hne
  have hslash : ∀ c ∈ digits, (c == '/' || c == '\\') = false := by
    intro c hc
    have hdigit := hdigits c hc
    simp only [Bool.or_eq_false_iff, beq_eq_false_iff_ne, ne_eq]
    constructor <;> rintro rfl <;> exact absurd hdigit (by decide)
  have hkeep : digits.takeWhile (fun c => c.isAlphanum || c == '-' || c == '.') = digits := by
    have hall : ∀ c ∈ digits, (c.isAlphanum || c == '-' || c == '.') = true := by
      intro c hc
      simp [Char.isAlphanum, hdigits c hc]
    simpa using @List.takeWhile_append_of_pos _ _ digits [] hall
  refine ⟨ipv4Text (digitsValue digits), ipv4Text_ne_empty _, ?_⟩
  have hall : digits.all Char.isDigit = true := List.all_eq_true.mpr hdigits
  simp only [standardHost, Bool.true_or, if_true, dropWhile_eq_self hslash, hkeep,
    List.isEmpty_iff, hne, if_false, hall]

theorem parseStandardUrl_standard : UrlStandard parseStandardUrl where
  absolute s url hparse := by
    simp only [parseStandardUrl] at hparse
    split at hparse
    case h_2 => cases hparse
    case h_1 rest hrest =>
      split at hparse
      case isFalse => cases hparse
      case isTrue hscheme =>
        cases hparse
        refine ⟨_, rest, ?_, hscheme, rfl⟩
        rw [← hrest, List.takeWhile_append_dropWhile]
  hostless s url scheme rest hparse hclean hscheme hordinary hslash hbackslash := by
    rw [parseStandardUrl_eq hclean hscheme, Except.ok.injEq] at hparse
    subst hparse
    have hstart : rest.head?.any (fun c => c == '/' || c == '\\') = false := by
      cases hhead : rest.head? with
      | none => rfl
      | some c =>
          rw [hhead, ne_eq, Option.some.injEq] at hslash hbackslash
          simp [hslash, hbackslash]
    simp only [standardHost, hordinary, decide_false, hstart, Bool.or_self, Bool.false_eq_true,
      if_false]
  numeric scheme number hscheme hspecial hnumber := by
    obtain ⟨host, hhost, hnumberHost⟩ := standardHost_number number
    refine ⟨host, hhost, ?_⟩
    have hclean : cleanUrl (String.ofList scheme ++ ":" ++ toString number).toList =
        scheme ++ ':' :: (toString number).toList := by
      have hschemeChars := isPlain_of_isHost
        (@isHost_of_specialScheme (String.ofList scheme) (by rwa [String.toList_ofList]))
      have hdigits : ∀ c ∈ (toString number).toList, IsPlain c := by
        intro c hc
        exact isPlain_of_isAlphanum (by simp [Char.isAlphanum, isDigit_of_toString c hc])
      rw [(trim_hostPort hschemeChars hdigits).2, String.toList_ofList]
    rw [parseStandardUrl_eq hclean hscheme, decide_eq_true hspecial, hnumberHost]

def Platform.standard : Platform := { Platform.plain with parseUrl := parseStandardUrl }

theorem Settings.plain_standard : Settings.plain.validate .standard = .ok () := by
  decide +kernel

def ValidSettings.standard : ValidSettings .standard := ⟨.plain, Settings.plain_standard⟩

theorem nextblock_quic_endpoint_iff_documented :
    ((Documented "mainnet.quic.nextblock.io" →
          Accepts ValidSettings.standard "mainnet.quic.nextblock.io") ∧
        (Accepts ValidSettings.standard "mainnet.quic.nextblock.io" →
          SplitsBare "mainnet.quic.nextblock.io")) ↔
      SchemeAndPort "mainnet.quic.nextblock.io" ∨
        ¬Documented "mainnet.quic.nextblock.io" ∧
          ¬HasUrlHost .standard "mainnet.quic.nextblock.io" :=
  nextblock_quic_endpoint_iff parseStandardUrl_standard .standard _

theorem documented_endpoint_rejected :
    (Documented "mainnet.quic.nextblock.io" ∧
      ¬Accepts ValidSettings.standard "mainnet.quic.nextblock.io") ∧
    Accepts ValidSettings.standard "https://mainnet.quic.nextblock.io" ∧
      parseHostPort "https://mainnet.quic.nextblock.io" defaultQuicPort =
        ("https://mainnet.quic.nextblock.io", 9443) ∧
      ¬SplitsBare "https://mainnet.quic.nextblock.io" := by
  refine ⟨⟨.inl (by decide +kernel), ?_⟩, ?_, by decide +kernel, ?_⟩
  · rw [accepts_iff_validate]
    decide +kernel
  · rw [accepts_iff_validate]
    decide +kernel
  · rintro ⟨hhost, -⟩
    exact absurd hhost (by decide +kernel)

end Girasol
