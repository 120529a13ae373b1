import Pageviews.Proofs.Url.Parser

/-! Addresses of pages, part by part. Main statement: what is read from an address fails as its host
does, and else has the host and the path of the address, whatever the other parts are. -/
namespace Pageviews.Url

variable {text user host digits solid path : List Char} {c : Char}

def compact (text : List Char) : List Char :=
  text.filter fun c => c ≠ '\t' && c ≠ '\n' && c ≠ '\r'

theorem compact_append (text more : List Char) :
    compact (text ++ more) = compact text ++ compact more :=
  List.filter_append text more

theorem mem_of_mem_compact (h : c ∈ compact text) : c ∈ text := (List.mem_filter.mp h).1

theorem compact_of_forall (h : ∀ c ∈ text, 0x20 < c.toNat) : compact text = text := by
  apply List.filter_eq_self.mpr
  intro c hc
  have hne : ∀ d : Char, d.toNat ≤ 0x20 → c ≠ d := by
    rintro d hd rfl
    have := h c hc
    omega
  simp [hne '\t' (by decide), hne '\n' (by decide), hne '\r' (by decide)]

/-- Only what follows a text that neither begins nor ends in a control or space is cut off. -/
theorem exists_clean_append_of_ends (hne : solid ≠ []) (hfirst : ∀ c ∈ solid.head?, 0x20 < c.toNat)
    (hlast : ∀ c ∈ solid.getLast?, 0x20 < c.toNat) (rest : List Char) :
    ∃ kept, kept <+: rest ∧ clean (solid ++ rest) = compact solid ++ compact kept := by
  have hp : ∀ {c : Char}, 0x20 < c.toNat → decide (c.toNat ≤ 0x20) = false := by
    intro c hc
    exact decide_eq_false (Nat.not_le.mpr hc)
  have hstart : (solid ++ rest).dropWhile (·.toNat ≤ 0x20) = solid ++ rest := by
    obtain ⟨c, more, rfl⟩ := List.exists_cons_of_ne_nil hne
    rw [List.cons_append, List.dropWhile_cons_of_neg]
    simp [hp (hfirst c rfl)]
  have hend : solid.reverse.dropWhile (·.toNat ≤ 0x20) = solid.reverse := by
    obtain ⟨c, more, hreverse⟩ := List.exists_cons_of_ne_nil (List.reverse_ne_nil_iff.mpr hne)
    have hc : c ∈ solid.getLast? := by
      rw [Option.mem_def, List.getLast?_eq_head?_reverse, hreverse, List.head?_cons]
    rw [hreverse, List.dropWhile_cons_of_neg]
    simp [hp (hlast c hc)]
  refine ⟨(rest.reverse.dropWhile (·.toNat ≤ 0x20)).reverse, ?_, ?_⟩
  · rw [← List.reverse_suffix, List.reverse_reverse]
    exact List.dropWhile_suffix _
  · have htrim : Text.trimWhere (·.toNat ≤ 0x20) (solid ++ rest) =
        solid ++ (rest.reverse.dropWhile (·.toNat ≤ 0x20)).reverse := by
      rw [Text.trimWhere, hstart, List.reverse_append, List.dropWhile_append, hend]
      split
      · next hempty => simp [List.isEmpty_iff.mp hempty]
      · simp
    rw [clean, htrim]
    exact compact_append _ _

theorem splitCredentials_append (h : '@' ∉ host) (user : List Char) :
    splitCredentials (user ++ '@' :: host) = (some user, host) := by
  have hcut : Text.cut? ['@'] (user ++ '@' :: host).reverse = some (host.reverse, user.reverse) := by
    rw [List.reverse_append, List.reverse_cons, List.append_assoc, List.singleton_append,
      Text.cut?_append (by simpa using h)]
    simp [Text.cut?, Text.after?]
  simp only [splitCredentials, hcut, List.reverse_reverse]

theorem hostLength_append (hcolon : ':' ∉ host) (hbracket : '[' ∉ host) (rest : List Char) :
    hostLength false (host ++ rest) = host.length + hostLength false rest := by
  induction host with
  | nil => simp
  | cons c host ih =>
    rw [List.mem_cons, not_or] at hcolon hbracket
    simp [hostLength, Ne.symm hcolon.1, Ne.symm hbracket.1, ih hcolon.2 hbracket.2]
    omega

/-- Digits of a number of sixteen bits are a port, with nothing behind it. -/
theorem exists_parsePort (hdigits : ∀ c ∈ digits, c.isDigit = true)
    (hvalue : natOfDigits digits ≤ 0xFFFF) (kind : SchemeKind) :
    ∃ port, parsePort kind digits = .ok (port, []) := by
  have htake : digits.takeWhile Char.isDigit = digits := List.takeWhile_eq_self_iff.mpr hdigits
  have hdrop : digits.dropWhile Char.isDigit = [] := List.dropWhile_eq_nil_iff.mpr hdigits
  have hlow : ¬ 0xFFFF < natOfDigits digits := Nat.not_lt.mpr hvalue
  refine ⟨if digits = [] ∨ kind = .network (natOfDigits digits) then none
    else some (natOfDigits digits), ?_⟩
  simp [parsePort, htake, hdrop, hlow]

def IsPortText (portText : List Char) : Prop :=
  portText = [] ∨ ∃ digits, portText = ':' :: digits ∧ (∀ c ∈ digits, c.isDigit = true) ∧
    natOfDigits digits ≤ 0xFFFF

/-- Credentials and port cannot make an authority fail, and leave its host as it is. -/
theorem exists_parseAuthority {portText : List Char} {credentials : Option (List Char)}
    (hne : host ≠ []) (hcolon : ':' ∉ host) (hbracket : '[' ∉ host) (hport : IsPortText portText)
    (hsplit : splitCredentials text = (credentials, host ++ portText)) (defaultPort : Nat)
    (pathFollows : Bool) :
    ∃ username password port, parseAuthority (.network defaultPort) pathFollows text =
      (parseHost host).map fun name => (⟨username, password, some name, port⟩, []) := by
  have hlength : hostLength false (host ++ portText) = host.length := by
    rw [hostLength_append hcolon hbracket]
    rcases hport with rfl | ⟨digits, rfl, -, -⟩
    · rfl
    · rfl
  have hhost : parseAnyHost (.network defaultPort) host = (parseHost host).map some := by
    simp [parseAnyHost, SchemeKind.isSpecial, hne]
  have hrest : host ++ portText ≠ [] := List.append_ne_nil_of_left_ne_nil hne portText
  refine ⟨percentEncode encodesInUserinfo (cutMark ':' (credentials.getD [])).1,
    percentEncode encodesInUserinfo ((cutMark ':' (credentials.getD [])).2.getD []), ?_⟩
  unfold parseAuthority
  simp only [hsplit, hrest, false_and, and_false, if_false, hlength, List.take_left, List.drop_left,
    hhost]
  cases parseHost host with
  | error cause => exact ⟨none, rfl⟩
  | ok name =>
    rcases hport with rfl | ⟨digits, rfl, hdigits, hvalue⟩
    · exact ⟨none, rfl⟩
    · obtain ⟨port, hparse⟩ := exists_parsePort hdigits hvalue (.network defaultPort)
      refine ⟨port, ?_⟩
      simp only [Except.map, bind, Except.bind, hparse]
      rfl

/-- Nothing, or what begins as a query or a fragment does. -/
def IsMarked (marks : List Char) : Prop :=
  marks = [] ∨ ∃ rest, marks = '?' :: rest ∨ marks = '#' :: rest

/-- A text without marks is what is left when query and fragment are cut off. -/
theorem exists_cuts {marks : List Char} (hquery : '?' ∉ text) (hfragment : '#' ∉ text)
    (hmarks : IsMarked marks) : ∃ before fragment query,
      cutMark '#' (text ++ marks) = (before, fragment) ∧ cutMark '?' before = (text, query) := by
  have hcut (mark : Char) (rest : List Char) : cutMark mark (mark :: rest) = ([], some rest) := by
    simp [cutMark, Text.cut?, Text.after?]
  have hnone (mark : Char) : cutMark mark [] = ([], none) := by simp [cutMark, Text.cut?]
  have hwhole : cutMark '?' text = (text, none) := by
    have h := cutMark_append hquery []
    rwa [hnone, List.append_nil] at h
  rcases hmarks with rfl | ⟨rest, rfl | rfl⟩
  · refine ⟨text, none, none, ?_, hwhole⟩
    rw [cutMark_append hfragment, hnone, List.append_nil]
  · obtain ⟨kept, fragment, hfirst⟩ := exists_cutMark hfragment (c := '?') (by decide) rest
    refine ⟨_, fragment, some kept, hfirst, ?_⟩
    rw [cutMark_append hquery, hcut, List.append_nil]
  · refine ⟨text, some rest, none, ?_, hwhole⟩
    rw [cutMark_append hfragment, hcut, List.append_nil]

/-- The address of a page, with nothing in its parts that would end them. -/
structure Address where
  scheme : List Char
  credentials : Option (List Char)
  host : List Char
  port : Option (List Char)
  path : List Char
  /-- What stands behind the path: a query, a fragment, or both. -/
  marks : List Char
  scheme_eq : scheme = "http".toList ∨ scheme = "https".toList
  credentials_plain : ∀ user ∈ credentials, ∀ c ∈ user, c ∉ "/\\?#@".toList
  host_ne : host ≠ []
  host_plain : ∀ c ∈ host, 0x20 < c.toNat ∧ c ∉ "/\\?#@:[]".toList
  port_digits : ∀ digits ∈ port, (∀ c ∈ digits, c.isDigit = true) ∧ natOfDigits digits ≤ 0xFFFF
  path_lead : path = [] ∨ path.head? = some '/'
  path_plain : ∀ c ∈ path, c ∉ "?#".toList
  path_last : ∀ c ∈ path.getLast?, 0x20 < c.toNat
  marks_lead : IsMarked marks

namespace Address

variable (a : Address)

def lead : List Char := (a.credentials.map (· ++ ['@'])).getD []

def portText : List Char := (a.port.map (':' :: ·)).getD []

def toText : String :=
  String.ofList (a.scheme ++ "://".toList ++ (a.lead ++ a.host ++ a.portText) ++ a.path ++ a.marks)

/-- The path as a URL has it. -/
def urlPath : List Char := (followPath false true (compact a.path).tail).toText

theorem isPortText : IsPortText a.portText := by
  unfold portText
  cases h : a.port with
  | none => exact .inl rfl
  | some digits => exact .inr ⟨digits, rfl, a.port_digits digits h⟩

theorem not_mem_host {mark : Char} (h : mark ∈ "/\\?#@:[]".toList) : mark ∉ a.host :=
  fun hmem => (a.host_plain mark hmem).2 h

/-- A mark that is no colon and no digit is not in what stands behind the host. -/
theorem not_mem_portText {mark : Char} (hcolon : mark ≠ ':') (hdigit : mark.isDigit = false) :
    mark ∉ a.portText := by
  rcases a.isPortText with h | ⟨digits, h, hdigits, -⟩
  · simp [h]
  · rw [h, List.mem_cons, not_or]
    refine ⟨hcolon, fun hmem => ?_⟩
    rw [hdigits mark hmem] at hdigit
    cases hdigit

theorem lt_of_mem_portText {c : Char} (h : c ∈ a.portText) : 0x20 < c.toNat := by
  rcases a.isPortText with hport | ⟨digits, hport, hdigits, -⟩
  · rw [hport] at h
    cases h
  · rw [hport, List.mem_cons] at h
    rcases h with rfl | h
    · decide
    · have hrange := hdigits c h
      simp only [Char.isDigit, Bool.and_eq_true, decide_eq_true_eq, ge_iff_le,
        UInt32.le_iff_toNat_le] at hrange
      have hzero : '0'.val.toNat = 48 := rfl
      have : c.toNat = c.val.toNat := rfl
      omega

def authority : List Char := compact a.lead ++ a.host ++ a.portText

theorem not_mem_authority {mark : Char} (h : mark ∈ "/\\?#".toList) : mark ∉ a.authority := by
  have hwider : ∀ d ∈ "/\\?#".toList, d ∈ "/\\?#@".toList ∧ d ∈ "/\\?#@:[]".toList ∧ d ≠ '@' ∧
      d ≠ ':' ∧ d.isDigit = false := by simp
  obtain ⟨huser, hhost, hat, hcolon, hdigit⟩ := hwider mark h
  simp only [authority, List.mem_append, not_or]
  refine ⟨⟨fun hmem => ?_, a.not_mem_host hhost⟩, a.not_mem_portText hcolon hdigit⟩
  have hlead := mem_of_mem_compact hmem
  unfold lead at hlead
  cases hc : a.credentials with
  | none =>
    rw [hc] at hlead
    cases hlead
  | some user =>
    rw [hc, Option.map_some, Option.getD_some, List.mem_append, List.mem_singleton] at hlead
    rcases hlead with hmem | heq
    · exact a.credentials_plain user hc mark hmem huser
    · exact hat heq

theorem isSeparator_of_mem_authority {c : Char} (h : c ∈ a.authority) :
    isSeparator true c = false := by
  have hne : ∀ mark ∈ "/\\?#".toList, c ≠ mark := by
    rintro mark hmark rfl
    exact a.not_mem_authority hmark h
  simp [isSeparator, hne '/' (by decide), hne '\\' (by decide)]

theorem splitCredentials_authority :
    splitCredentials a.authority = (a.credentials.map compact, a.host ++ a.portText) := by
  have hat : '@' ∉ a.host ++ a.portText := by
    rw [List.mem_append, not_or]
    exact ⟨a.not_mem_host (by decide), a.not_mem_portText (by decide) (by decide)⟩
  rw [authority, lead, List.append_assoc]
  cases a.credentials with
  | none => exact splitCredentials_of_not_mem hat
  | some user =>
    have hsign : compact ['@'] = ['@'] := rfl
    rw [Option.map_some, Option.getD_some, compact_append, hsign, List.append_assoc]
    exact splitCredentials_append hat _

theorem compact_path_lead :
    compact a.path = [] ∨ ∃ rest, compact a.path = '/' :: rest := by
  rcases a.path_lead with h | h
  · exact .inl (by rw [h]; rfl)
  · obtain ⟨rest, hpath⟩ := List.head?_eq_some_iff.mp h
    exact .inr ⟨compact rest, by rw [hpath]; rfl⟩

/-- Host and path are read from what stands behind the scheme, and nothing else can fail. -/
theorem exists_parseHierarchy (defaultPort : Nat) (marked : Bool) :
    ∃ username password port,
      parseHierarchy (.network defaultPort) marked (a.authority ++ compact a.path) =
        (parseHost a.host).map fun name =>
          (⟨username, password, some name, port⟩, a.urlPath) := by
  have hinside : ∀ c ∈ a.authority, (!isSeparator true c) = true := by
    intro c hc
    rw [a.isSeparator_of_mem_authority hc]
    rfl
  have hcut : (a.authority ++ compact a.path).takeWhile (!isSeparator true ·) = a.authority ∧
      (a.authority ++ compact a.path).dropWhile (!isSeparator true ·) = compact a.path := by
    rw [List.takeWhile_append_of_pos hinside, List.dropWhile_append_of_pos hinside]
    rcases a.compact_path_lead with h | ⟨rest, h⟩ <;> simp [h, isSeparator]
  have htail : (if (compact a.path).head?.any (isSeparator true) then (compact a.path).tail
      else compact a.path) = (compact a.path).tail := by
    rcases a.compact_path_lead with h | ⟨rest, h⟩ <;> simp [h, isSeparator]
  obtain ⟨username, password, port, hauthority⟩ := exists_parseAuthority a.host_ne
    (a.not_mem_host (by decide)) (a.not_mem_host (by decide)) a.isPortText
    a.splitCredentials_authority defaultPort (compact a.path ≠ [] || marked)
  refine ⟨username, password, port, ?_⟩
  have hspecial : (SchemeKind.network defaultPort).isSpecial = true := rfl
  unfold parseHierarchy
  simp only [hspecial, hcut, hauthority]
  cases parseHost a.host with
  | error cause => rfl
  | ok name =>
    simp only [Except.map, bind, Except.bind, List.nil_append, htail]
    rfl

theorem getLast?_append_of {P : Char → Prop} {front back : List Char}
    (hback : ∀ c ∈ back.getLast?, P c) (hfront : back = [] → ∀ c ∈ front.getLast?, P c) :
    ∀ c ∈ (front ++ back).getLast?, P c := by
  intro c hc
  rw [Option.mem_def, List.getLast?_append, Option.or_eq_some_iff] at hc
  rcases hc with hc | ⟨hnil, hc⟩
  · exact hback c hc
  · exact hfront (List.getLast?_eq_none_iff.mp hnil) c hc

theorem compact_scheme : compact (a.scheme ++ "://".toList) = a.scheme ++ "://".toList := by
  rcases a.scheme_eq with h | h <;> rw [h] <;> rfl

def front : List Char := a.scheme ++ "://".toList ++ (a.lead ++ a.host ++ a.portText) ++ a.path

theorem compact_front : compact a.front =
    a.scheme ++ "://".toList ++ (a.authority ++ compact a.path) := by
  have hhost : compact a.host = a.host := compact_of_forall fun c hc => (a.host_plain c hc).1
  have hport : compact a.portText = a.portText := compact_of_forall fun c => a.lt_of_mem_portText
  rw [front, compact_append, compact_append, compact_scheme, compact_append, compact_append, hhost,
    hport, authority, List.append_assoc _ _ (compact a.path)]

theorem head?_front : a.front.head? = some 'h' := by
  unfold front
  rcases a.scheme_eq with h | h <;> rw [h] <;> rfl

/-- The last part in front of the marks that is not empty is path, port or host. -/
theorem lt_of_mem_getLast?_front : ∀ c ∈ a.front.getLast?, 0x20 < c.toNat := by
  have hport : ∀ c ∈ a.portText.getLast?, 0x20 < c.toNat :=
    fun c hc => a.lt_of_mem_portText (List.mem_of_getLast? hc)
  have hhost : ∀ c ∈ a.host.getLast?, 0x20 < c.toNat :=
    fun c hc => (a.host_plain c (List.mem_of_getLast? hc)).1
  refine getLast?_append_of a.path_last fun _ => ?_
  refine getLast?_append_of (getLast?_append_of hport fun _ => ?_) fun hnil => ?_
  · exact getLast?_append_of hhost fun hnil => absurd hnil a.host_ne
  · simp [a.host_ne] at hnil

theorem exists_clean_toText : ∃ marks, IsMarked marks ∧ clean a.toText.toList =
    a.scheme ++ "://".toList ++ (a.authority ++ compact a.path ++ marks) := by
  have htext : a.toText.toList = a.front ++ a.marks := by
    rw [toText, String.toList_ofList]
    rfl
  have hfirst (more : List Char) : ∀ c ∈ (a.front ++ more).head?, 0x20 < c.toNat := by
    rw [List.head?_append, a.head?_front]
    rintro c ⟨⟩
    decide
  have hne : a.front ≠ [] := by
    intro hnil
    have hhead := a.head?_front
    rw [hnil] at hhead
    cases hhead
  rcases a.marks_lead with hmarks | ⟨rest, hmarks⟩
  · obtain ⟨kept, hkept, hclean⟩ :=
      exists_clean_append_of_ends hne (by simpa using hfirst []) a.lt_of_mem_getLast?_front []
    obtain rfl := List.prefix_nil.mp hkept
    refine ⟨[], .inl rfl, ?_⟩
    rw [htext, hmarks, hclean, a.compact_front, List.append_nil]
    exact List.append_nil _
  · -- the first mark is kept, and what follows it may be cut off at the end
    obtain ⟨mark, hmark, hsolid, hcompact⟩ : ∃ mark, a.marks = mark :: rest ∧ 0x20 < mark.toNat ∧
        compact [mark] = [mark] ∧ (mark = '?' ∨ mark = '#') := by
      rcases hmarks with h | h
      · exact ⟨'?', h, by decide, rfl, .inl rfl⟩
      · exact ⟨'#', h, by decide, rfl, .inr rfl⟩
    have hends : ∀ c ∈ (a.front ++ [mark]).getLast?, 0x20 < c.toNat := by
      simpa using hsolid
    obtain ⟨kept, -, hclean⟩ := exists_clean_append_of_ends
      (List.append_ne_nil_of_left_ne_nil hne [mark]) (hfirst [mark]) hends rest
    refine ⟨mark :: compact kept, .inr ⟨compact kept, ?_⟩, ?_⟩
    · rcases hcompact.2 with rfl | rfl
      · exact .inl rfl
      · exact .inr rfl
    · rw [htext, hmark, ← List.singleton_append, ← List.append_assoc, hclean, compact_append,
        a.compact_front, hcompact.1]
      simp

/-- An address is read as its host is: what is added to the host has the path of the address. -/
theorem exists_parse : ∃ page : Host → Url,
    (∀ name, (page name).hostText = name.toText ∧ (page name).path = a.urlPath) ∧
      parse a.toText = (parseHost a.host).map page := by
  obtain ⟨marks, hmarks, hclean⟩ := a.exists_clean_toText
  have hscheme (rest : List Char) :
      scheme? (a.scheme ++ "://".toList ++ rest) = some (a.scheme, "//".toList ++ rest) := by
    rcases a.scheme_eq with h | h <;> rw [h] <;> rfl
  obtain ⟨defaultPort, hkind⟩ : ∃ port, schemeKind a.scheme = .network port := by
    rcases a.scheme_eq with h | h <;> rw [h] <;> exact ⟨_, rfl⟩
  have hslashes : ("//".toList ++ (a.authority ++ compact a.path)).dropWhile (isSeparator true) =
      a.authority ++ compact a.path := by
    have hne : a.authority ≠ [] := by simp [authority, a.host_ne]
    obtain ⟨c, rest, hauthority⟩ := List.exists_cons_of_ne_nil hne
    have hc : isSeparator true c = false := by
      have hmem : c ∈ a.authority := by rw [hauthority]; exact List.mem_cons_self
      exact a.isSeparator_of_mem_authority hmem
    have hslash : isSeparator true '/' = true := by decide
    simp [hauthority, hslash, hc]
  have hunmarked : ∀ mark ∈ "?#".toList, mark ∉ "//".toList ++ (a.authority ++ compact a.path) := by
    intro mark hmark
    have hall : ∀ d ∈ "?#".toList, d ∈ "/\\?#".toList ∧ d ∉ "//".toList := by simp
    obtain ⟨hwider, hslash⟩ := hall mark hmark
    simp only [List.mem_append, not_or]
    exact ⟨hslash, a.not_mem_authority hwider,
      fun hmem => a.path_plain mark (mem_of_mem_compact hmem) hmark⟩
  obtain ⟨before, fragment, query, hhash, hquery⟩ := exists_cuts (hunmarked '?' (by decide))
    (hunmarked '#' (by decide)) hmarks
  rw [List.append_assoc] at hhash
  obtain ⟨username, password, port, hierarchy⟩ := a.exists_parseHierarchy defaultPort
    ((query.map (percentEncode (encodesInQuery true))).isSome ||
      (fragment.map (percentEncode encodesInFragment)).isSome)
  refine ⟨fun name => ⟨a.scheme, some ⟨username, password, some name, port⟩, a.urlPath,
    query.map (percentEncode (encodesInQuery true)),
    fragment.map (percentEncode encodesInFragment)⟩, fun name => ⟨rfl, rfl⟩, ?_⟩
  have hspecial : (SchemeKind.network defaultPort).isSpecial = true := rfl
  unfold parse
  rw [hclean, hscheme]
  simp only [hkind, hhash, hquery, hslashes, hspecial, hierarchy]
  cases parseHost a.host with
  | error cause => rfl
  | ok name => rfl

end Address
end Pageviews.Url
