import Pageviews.Client.Family
import Pageviews.Proofs.Text.Trim

/-! Families of systems, browsers and devices. Main statement: whatever is found out from a text,
the three families are names of one vocabulary, and they agree with each other. -/
namespace Pageviews.Client

variable {f : Finding} {text model : List Char} {system family : String}

/-- The family of a system, with the reason for it. -/
inductive SystemFamily (system : String) : String → Prop where
  | windows (h : "Windows".toList <+: system.toList) : SystemFamily system "Windows"
  | mac (h : system = "Mac OSX") : SystemFamily system "Mac OS X"
  | chrome (h : system = "ChromeOS") : SystemFamily system "Chrome OS"
  | apple (h : isAppleSystem system = true) : SystemFamily system "iOS"
  | unrecognized (h : system ∈ ["", unknown]) : SystemFamily system unrecognized
  | kept (hwindows : ¬ "Windows".toList <+: system.toList) (happle : isAppleSystem system = false)
      (h : system ∉ ["", unknown, "Mac OSX", "ChromeOS"]) : SystemFamily system system

theorem systemFamily_eq (system : String) : SystemFamily system (systemFamily system) := by
  unfold systemFamily knownOrOther
  by_cases hwindows : Text.leads "Windows" system.toList = true
  · rw [if_pos hwindows]
    exact .windows (Text.leads_iff.mp hwindows)
  rw [if_neg hwindows]
  by_cases hmac : system = "Mac OSX"
  · rw [if_pos hmac]
    exact .mac hmac
  rw [if_neg hmac]
  by_cases hchrome : system = "ChromeOS"
  · rw [if_pos hchrome]
    exact .chrome hchrome
  rw [if_neg hchrome]
  by_cases happle : isAppleSystem system = true
  · rw [if_pos happle]
    exact .apple happle
  rw [if_neg happle]
  by_cases hname : system = "" ∨ system = unknown
  · rw [if_pos hname]
    exact .unrecognized (by simpa using hname)
  · rw [if_neg hname]
    rw [not_or] at hname
    refine .kept (mt Text.leads_iff.mpr hwindows) (by simpa using happle) ?_
    simp [hname, hmac, hchrome]

/-- A version is believed if nothing is known of it or it has a minor number. -/
def Finding.isBelieved (f : Finding) : Bool :=
  knownOrOther f.version = unrecognized || hasMinorVersion (knownOrOther f.version)

inductive BrowserFamily (f : Finding) : String → Prop where
  | disbelieved (h : f.isBelieved = false) : BrowserFamily f unrecognized
  | chromeOnAndroid (hb : f.isBelieved = true) (h : f.name = "Chrome" ∧ f.system = "Android") :
      BrowserFamily f "Chrome Mobile"
  | chromeOnApple (hb : f.isBelieved = true) (h : f.name = "Chrome" ∧ isAppleSystem f.system = true) :
      BrowserFamily f "Chrome Mobile iOS"
  | firefoxOnAndroid (hb : f.isBelieved = true) (h : f.name = "Firefox" ∧ f.system = "Android") :
      BrowserFamily f "Firefox Mobile"
  | safariOnApple (hb : f.isBelieved = true) (h : f.name = "Safari" ∧ isAppleSystem f.system = true) :
      BrowserFamily f "Mobile Safari"
  | explorer (hb : f.isBelieved = true) (h : f.name = "Internet Explorer") : BrowserFamily f "IE"
  | unrecognized (hb : f.isBelieved = true) (h : f.name ∈ ["", unknown]) :
      BrowserFamily f unrecognized
  | kept (hb : f.isBelieved = true) (h : f.name ∉ ["", unknown, "Internet Explorer"])
      (hchrome : f.name = "Chrome" → f.system ≠ "Android" ∧ isAppleSystem f.system = false)
      (hfirefox : f.name = "Firefox" → f.system ≠ "Android")
      (hsafari : f.name = "Safari" → isAppleSystem f.system = false) : BrowserFamily f f.name

theorem browserFamily_eq (f : Finding) : BrowserFamily f f.browserFamily := by
  unfold Finding.browserFamily
  by_cases hb : f.isBelieved = true
  · have hbelieved : ¬ (knownOrOther f.version ≠ Client.unrecognized ∧
        (!hasMinorVersion (knownOrOther f.version)) = true) := by
      simpa [Finding.isBelieved, or_iff_not_imp_left] using hb
    dsimp only
    rw [if_neg hbelieved]
    by_cases hchromeAndroid : f.name = "Chrome" ∧ f.system = "Android"
    · rw [if_pos hchromeAndroid]
      exact .chromeOnAndroid hb hchromeAndroid
    rw [if_neg hchromeAndroid]
    by_cases hchromeApple : f.name = "Chrome" ∧ isAppleSystem f.system = true
    · rw [if_pos hchromeApple]
      exact .chromeOnApple hb hchromeApple
    rw [if_neg hchromeApple]
    by_cases hfirefox : f.name = "Firefox" ∧ f.system = "Android"
    · rw [if_pos hfirefox]
      exact .firefoxOnAndroid hb hfirefox
    rw [if_neg hfirefox]
    by_cases hsafari : f.name = "Safari" ∧ isAppleSystem f.system = true
    · rw [if_pos hsafari]
      exact .safariOnApple hb hsafari
    rw [if_neg hsafari]
    by_cases hexplorer : f.name = "Internet Explorer"
    · rw [if_pos hexplorer]
      exact .explorer hb hexplorer
    rw [if_neg hexplorer, knownOrOther]
    by_cases hname : f.name = "" ∨ f.name = unknown
    · rw [if_pos hname]
      exact .unrecognized hb (by simpa using hname)
    rw [if_neg hname]
    rw [not_or] at hname
    refine .kept hb (by simp [hname, hexplorer]) ?_ ?_ ?_
    · exact fun h => ⟨fun ha => hchromeAndroid ⟨h, ha⟩,
        Bool.eq_false_iff.mpr fun ha => hchromeApple ⟨h, ha⟩⟩
    · exact fun h ha => hfirefox ⟨h, ha⟩
    · exact fun h => Bool.eq_false_iff.mpr fun ha => hsafari ⟨h, ha⟩
  · have hdisbelieved : knownOrOther f.version ≠ Client.unrecognized ∧
        (!hasMinorVersion (knownOrOther f.version)) = true := by
      simpa [Finding.isBelieved] using hb
    dsimp only
    rw [if_pos hdisbelieved]
    exact .disbelieved (by simpa using hb)

/-- A text that has characters, but no white space at either end. -/
structure IsLabel (text : List Char) : Prop where
  nonempty : text ≠ []
  head : ∀ c, text.head? = some c → Text.isBlank c = false
  last : ∀ c, text.getLast? = some c → Text.isBlank c = false

theorem isLabel_trim (h : Text.trim text ≠ []) : IsLabel (Text.trim text) :=
  ⟨h, (Text.trimsTo_trimWhere Text.isBlank text).head, (Text.trimsTo_trimWhere Text.isBlank text).last⟩

theorem isLabel_of_androidModel? (h : androidModel? text = some model) : IsLabel model := by
  obtain ⟨⟨before, rest⟩, hopening, h⟩ := Option.bind_eq_some_iff.mp h
  obtain ⟨⟨platform, after⟩, hclosing, h⟩ := Option.bind_eq_some_iff.mp h
  obtain ⟨token, htoken, h⟩ := Option.bind_eq_some_iff.mp h
  -- the token is trimmed whether a build follows the model or not
  have htrim : ∃ part, model = Text.trim part ∧ Text.trim part ≠ [] := by
    dsimp only at h
    split at h
    all_goals
      split at h
      · cases h
      · next hmodel =>
        cases h
        exact ⟨_, rfl, (not_or.mp hmodel).1⟩
  obtain ⟨part, rfl, hne⟩ := htrim
  exact isLabel_trim hne

inductive DeviceFamily (f : Finding) (text : List Char) : String → Prop where
  | apple (h : isAppleSystem f.system = true) : DeviceFamily f text f.system
  | mac (h : f.system = "Mac OSX") : DeviceFamily f text "Mac"
  | crawler (happle : isAppleSystem f.system = false) (h : f.category = some .crawler) :
      DeviceFamily f text "Spider"
  | android {model : List Char} (h : f.system = "Android") (hmodel : androidModel? text = some model) :
      DeviceFamily f text (String.ofList model)
  | unrecognized (happle : isAppleSystem f.system = false) : DeviceFamily f text unrecognized

theorem deviceFamily_eq (f : Finding) (text : List Char) :
    DeviceFamily f text (f.deviceFamily text) := by
  unfold Finding.deviceFamily
  by_cases happle : isAppleSystem f.system = true
  · rw [if_pos happle]
    exact .apple happle
  rw [if_neg happle]
  rw [Bool.not_eq_true] at happle
  by_cases hmac : f.system = "Mac OSX"
  · rw [if_pos hmac]
    exact .mac hmac
  rw [if_neg hmac]
  by_cases hcrawler : f.category = some .crawler
  · rw [if_pos hcrawler]
    exact .crawler happle hcrawler
  rw [if_neg hcrawler]
  by_cases handroid : f.system = "Android"
  · rw [if_pos handroid]
    cases hmodel : androidModel? text with
    | none => exact .unrecognized happle
    | some model => exact .android handroid hmodel
  · rw [if_neg handroid]
    exact .unrecognized happle

/-- A client whose families are names that stored data have, and agree with each other. -/
structure WellNamed (c : Client) : Prop where
  system : c.operatingSystem ∉ ["", "UNKNOWN", "Mac OSX", "ChromeOS", "iPhone", "iPad", "iPod"]
  windows : "Windows".toList <+: c.operatingSystem.toList → c.operatingSystem = "Windows"
  browser : c.browserFamily ∉ ["", "UNKNOWN", "Internet Explorer"]
  device : IsLabel c.device.toList
  onAndroid : c.operatingSystem = "Android" → c.browserFamily ∉ ["Chrome", "Firefox"]
  onWindows : c.operatingSystem = "Windows" → c.device ∈ ["Other", "Spider"]

theorem isAppleSystem_iff : isAppleSystem system = true ↔ system ∈ ["iPhone", "iPad", "iPod"] := by
  simp [isAppleSystem, or_assoc]

theorem SystemFamily.wellNamed (h : SystemFamily system family) :
    family ∉ ["", "UNKNOWN", "Mac OSX", "ChromeOS", "iPhone", "iPad", "iPod"] ∧
      ("Windows".toList <+: family.toList → family = "Windows") := by
  cases h with
  | windows => exact ⟨by decide, fun _ => rfl⟩
  | kept hwindows happle h =>
    refine ⟨?_, fun hw => absurd hw hwindows⟩
    rw [Bool.eq_false_iff, ne_eq, isAppleSystem_iff] at happle
    simp only [unknown, List.mem_cons, not_or] at h happle ⊢
    exact ⟨h.1, h.2.1, h.2.2.1, h.2.2.2.1, happle⟩
  | _ => exact ⟨by decide, by decide⟩

theorem BrowserFamily.ne (h : BrowserFamily f family) :
    family ∉ ["", "UNKNOWN", "Internet Explorer"] ∧
      (f.system = "Android" → family ∉ ["Chrome", "Firefox"]) := by
  cases h with
  | kept _ h hchrome hfirefox _ =>
    refine ⟨h, fun handroid hmem => ?_⟩
    simp only [List.mem_cons, List.not_mem_nil, or_false] at hmem
    rcases hmem with hname | hname
    · exact (hchrome hname).1 handroid
    · exact hfirefox hname handroid
  | _ => exact ⟨by decide, fun _ => by decide⟩

theorem DeviceFamily.isLabel (h : DeviceFamily f text family) : IsLabel family.toList := by
  have hconstant : ∀ name ∈ ["iPhone", "iPad", "iPod", "Mac", "Spider", "Other"],
      IsLabel name.toList := by
    have hends : ∀ name ∈ ["iPhone", "iPad", "iPod", "Mac", "Spider", "Other"],
        name.toList ≠ [] ∧ Text.trim name.toList = name.toList := by decide
    intro name hname
    obtain ⟨hne, htrim⟩ := hends name hname
    rw [← htrim] at hne ⊢
    exact isLabel_trim hne
  cases h with
  | apple h =>
    rw [isAppleSystem_iff] at h
    exact hconstant _ (List.mem_append_left ["Mac", "Spider", "Other"] h)
  | android _ hmodel =>
    rw [String.toList_ofList]
    exact isLabel_of_androidModel? hmodel
  | mac => exact hconstant "Mac" (by decide)
  | crawler => exact hconstant "Spider" (by decide)
  | unrecognized => exact hconstant "Other" (by decide)

/-- A family that does not gather others is a system itself. -/
theorem SystemFamily.eq_system (h : SystemFamily system family)
    (hf : family ∉ ["Windows", "Mac OS X", "Chrome OS", "iOS", "Other"]) : family = system := by
  cases h with
  | kept => rfl
  | _ => exact absurd (by decide) hf

theorem SystemFamily.isPrefix (h : SystemFamily system family) (hf : family = "Windows") :
    "Windows".toList <+: system.toList := by
  cases h with
  | windows h => exact h
  | kept => exact hf ▸ List.prefix_rfl
  | _ => exact absurd hf (by decide)

theorem DeviceFamily.of_windows (h : DeviceFamily f text family)
    (hsystem : "Windows".toList <+: f.system.toList) : family ∈ ["Other", "Spider"] := by
  have hnot : ∀ system ∈ ["iPhone", "iPad", "iPod", "Mac OSX", "Android"],
      ¬ "Windows".toList <+: system.toList := by decide
  cases h with
  | apple h =>
    rw [isAppleSystem_iff] at h
    exact absurd hsystem (hnot _ (List.mem_append_left ["Mac OSX", "Android"] h))
  | mac h =>
    rw [h] at hsystem
    exact absurd hsystem (hnot "Mac OSX" (by decide))
  | android h =>
    rw [h] at hsystem
    exact absurd hsystem (hnot "Android" (by decide))
  | crawler => decide
  | unrecognized => decide

theorem wellNamed_ofFinding (text : List Char) (found : Option Finding) :
    WellNamed (ofFinding text found) := by
  cases found with
  | none =>
    have hdevice : IsLabel "Other".toList := (deviceFamily_eq .start []).isLabel
    show WellNamed other
    exact ⟨by decide, by decide, by decide, hdevice, by decide, by decide⟩
  | some f =>
    have hsystem := systemFamily_eq f.system
    have hbrowser := browserFamily_eq f
    have hdevice := deviceFamily_eq f text
    refine ⟨hsystem.wellNamed.1, hsystem.wellNamed.2, hbrowser.ne.1, hdevice.isLabel, ?_, ?_⟩
    · intro handroid
      have hf : systemFamily f.system = "Android" := handroid
      rw [hf] at hsystem
      exact hbrowser.ne.2 (hsystem.eq_system (by decide)).symm
    · exact fun hwindows => hdevice.of_windows (hsystem.isPrefix hwindows)

/-- Whatever is found out from a text, the families of its client are names of the vocabulary: no
name that stands for another one, no device with white space at its ends, no browser of a desktop on
a telephone with its own, and no device but a crawler on a desktop system. Of a text from which
nothing is found out, all three families say so. -/
theorem families_agree (agent : String) (found : Option Finding) :
    WellNamed (ofFinding agent.toList found) ∧
    ((∀ f ∈ found, f.name = unknown ∧ f.system = unknown ∧ f.category = none) →
      ofFinding agent.toList found = ⟨"Other", "Other", "Other"⟩) := by
  refine ⟨wellNamed_ofFinding agent.toList found, fun hnothing => ?_⟩
  cases found with
  | none => rfl
  | some f =>
    obtain ⟨hname, hsystem, hcategory⟩ := hnothing f rfl
    have hbrowser : f.browserFamily = "Other" := by
      have hne : f.name ∉ ["Chrome", "Firefox", "Safari", "Internet Explorer"] := by
        rw [hname]
        decide
      have h := browserFamily_eq f
      generalize f.browserFamily = family at h
      cases h with
      | disbelieved => rfl
      | unrecognized => rfl
      | chromeOnAndroid _ h => exact absurd (by simp [h.1]) hne
      | chromeOnApple _ h => exact absurd (by simp [h.1]) hne
      | firefoxOnAndroid _ h => exact absurd (by simp [h.1]) hne
      | safariOnApple _ h => exact absurd (by simp [h.1]) hne
      | explorer _ h => exact absurd (by simp [h]) hne
      | kept _ h => exact absurd (by simp [hname]) h
    have hdevice : f.deviceFamily agent.toList = "Other" := by
      simp [Finding.deviceFamily, hsystem, hcategory, unknown, isAppleSystem, Client.unrecognized]
    have hfamily : systemFamily f.system = "Other" := by
      rw [hsystem]
      decide
    rw [ofFinding, hfamily, hbrowser, hdevice]

end Pageviews.Client
