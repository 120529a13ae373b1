import Pageviews.Proofs.Client.Family

/-! Telephones, tablets and players of one maker. Main statement: the families of a client that runs
their system agree with the devices that its text names. -/
namespace Pageviews.Client

open Text (has has_iff)

variable {f g : Finding} {text name : List Char} {p : Product} {family : String}

/-- The devices, which are reported by the names that texts have for them. -/
def appleDevices : List String := ["iPhone", "iPad", "iPod"]

/-- What a text has to say for a product to be found as its system: a device is named, and the system
that the devices have in common is found only if none of them is. -/
structure SpeaksFor (text : List Char) (p : Product) : Prop where
  device : p.entry.name ∈ appleDevices → has p.entry.name text = true
  common : p = .ios → ∀ name ∈ appleDevices, has name text = false

theorem SpeaksFor.of_other (h : p ∉ [.iPhone, .iPad, .iPod, .ios]) : SpeaksFor text p := by
  have hother : p.entry.name ∉ appleDevices := by
    revert h
    cases p <;> decide
  refine ⟨fun hdevice => absurd hdevice hother, ?_⟩
  rintro rfl
  exact absurd (by decide) h

theorem SpeaksFor.of_device (hp : p ∈ [.iPhone, .iPad, .iPod]) (h : has p.entry.name text = true) :
    SpeaksFor text p := by
  refine ⟨fun _ => h, ?_⟩
  rintro rfl
  exact absurd hp (by decide)

/-- Nothing is known of the system but what is on record of another product. -/
def Unsearched (f : Finding) : Prop :=
  f.system = unknown ∨ ∃ p : Product, p.entry.system = some f.system

/-- Where the system of a finding comes from. -/
inductive SystemSource (text : List Char) (f : Finding) : Prop where
  | unsearched (h : Unsearched f)
  | searched (p : Product) (h : SpeaksFor text p) (hsystem : f.system = p.entry.name)
      (hcategory : p = .ios → f.category = some .smartphone)

theorem SystemSource.runs (h : SpeaksFor text p) : SystemSource text (f.runs p) := by
  refine .searched p h rfl ?_
  rintro rfl
  rfl

/-- The system, if anything is on record of it, is that of a product. -/
def Takes (f g : Finding) : Prop := ∃ p : Product, g.system = p.entry.system.getD f.system

theorem takes_populate (f : Finding) (p : Product) : Takes f (f.populate p) := ⟨p, rfl⟩

theorem takes_isProduct (f : Finding) (p : Product) (version : List Char) :
    Takes f (f.isProduct p version) := ⟨p, rfl⟩

theorem takes_runsSystemOf (f : Finding) (p : Product) : Takes f (f.runsSystemOf p) := ⟨p, rfl⟩

theorem Takes.unsearched (h : Takes f g) (hf : Unsearched f) : Unsearched g := by
  obtain ⟨p, hsystem⟩ := h
  cases hp : p.entry.system with
  | none =>
    rw [hp, Option.getD_none] at hsystem
    rwa [Unsearched, hsystem]
  | some system =>
    rw [hp, Option.getD_some] at hsystem
    exact .inr ⟨p, by rw [hp, hsystem]⟩

theorem takes_browser? (h : browser? text f = some g) : Takes f g := by
  unfold browser? at h
  dsimp only at h
  split at h
  · cases h
    exact takes_isProduct ..
  · split at h
    · cases h
      exact takes_isProduct ..
    · cases h
      exact takes_populate ..
    · cases h

theorem takes_telephone? (h : telephone? text f = some g) : Takes f g := by
  unfold telephone? at h
  split_ifs at h
  all_goals cases h
  · exact takes_isProduct f .docomo _
  · exact takes_isProduct f .au _
  · exact takes_isProduct f .softBank _
  · exact takes_isProduct f .willcom _
  · split
    · exact takes_isProduct f .jig _
    · exact takes_populate f .jig
  · exact takes_populate f .emobile
  · exact takes_populate f .symbianOS
  · exact takes_isProduct f .mobileTranscoder _
  · exact takes_isProduct f .mobileTranscoder _

theorem takes_network? (h : network? text f = some g) : Takes f g := by
  unfold network? at h
  split at h
  · cases h
    exact takes_runsSystemOf f .au
  · split at h
    · cases h
      exact takes_runsSystemOf f .willcom
    · split_ifs at h
      cases h
      exact takes_runsSystemOf f .symbianOS

theorem takes_console? (h : console? text f = some g) : Takes f g := by
  unfold console? at h
  split_ifs at h
  all_goals cases h
  · exact takes_runsSystemOf f .nintendoDSi
  · exact takes_runsSystemOf f .nintendoWii

theorem unsearched_transcoded (hf : Unsearched f) : Unsearched (transcoded text f) := by
  unfold transcoded
  split_ifs
  · exact (takes_isProduct ..).unsearched ((takes_isProduct ..).unsearched hf)
  · exact (takes_isProduct ..).unsearched hf
  · exact (takes_isProduct ..).unsearched hf
  · exact hf

theorem speaksFor_of_windowsVersion? (h : windowsVersion? name = some p) : SpeaksFor text p := by
  refine .of_other ?_
  unfold windowsVersion? at h
  split at h
  case h_12 =>
    split_ifs at h
    cases h
    decide
  all_goals
    cases h
    decide

theorem source_windows? (hf : Unsearched f) (h : windows? text f = some g) : SystemSource text g := by
  unfold windows? at h
  split_ifs at h
  · cases h
    exact .unsearched ((takes_populate f .xboxOne).unsearched hf)
  · cases h
    exact .unsearched ((takes_populate f .xbox360).unsearched hf)
  · split at h
    · cases h
      exact .runs (.of_other (by decide))
    · obtain ⟨p, hp, rfl⟩ := Option.map_eq_some_iff.mp h
      exact .runs (speaksFor_of_windowsVersion? hp)

theorem has_of_has {word part : String} (hpart : part.toList <:+: word.toList)
    (h : has word text = true) : has part text = true :=
  has_iff.mpr (hpart.trans (has_iff.mp h))

theorem source_apple? (h : apple? text f = some g) : SystemSource text g := by
  unfold apple? at h
  split_ifs at h with hkernel hlike hiPhone hiPad hiPod
  all_goals cases h
  · exact .runs (.of_device (by decide) (has_of_has (by decide) hiPhone))
  · exact .runs (.of_device (by decide) (has_of_has (by decide) hiPad))
  · exact .runs (.of_device (by decide) hiPod)
  · exact .runs (.of_other (by decide))
  · exact .runs (.of_other (by decide))

theorem source_linux? (h : linux? text f = some g) : SystemSource text g := by
  unfold linux? at h
  split_ifs at h
  all_goals
    cases h
    exact .runs (.of_other (by decide))

theorem exists_mem_of_firstMatch? {rules : List (Clue × Product)}
    (h : firstMatch? rules text = some p) : ∃ rule ∈ rules, rule.2 = p := by
  obtain ⟨rule, hfind, hp⟩ := Option.map_eq_some_iff.mp h
  exact ⟨rule, List.mem_of_find?_eq_some hfind, hp⟩

theorem firstMatch?_cons (clue : Clue) (p : Product) (rules : List (Clue × Product)) :
    firstMatch? ((clue, p) :: rules) text =
      if clue.meets text then some p else firstMatch? rules text := by
  unfold firstMatch?
  rw [List.find?_cons]
  cases clue.meets text <;> rfl

theorem speaksFor_of_smartphoneRules (h : firstMatch? smartphoneRules text = some p) :
    SpeaksFor text p := by
  have hother : ∀ rule ∈ smartphoneRules.drop 3, rule.2.entry.name ∉ appleDevices := by decide
  -- the rules for the devices come first
  rw [smartphoneRules, firstMatch?_cons, firstMatch?_cons, firstMatch?_cons] at h
  split_ifs at h with hiPhone hiPad hiPod
  · cases h
    exact .of_device (by decide) hiPhone
  · cases h
    exact .of_device (by decide) hiPad
  · cases h
    exact .of_device (by decide) hiPod
  · obtain ⟨rule, hrule, rfl⟩ := exists_mem_of_firstMatch? h
    refine ⟨fun hdevice => absurd hdevice (hother rule hrule), fun _ => ?_⟩
    simpa [appleDevices, Clue.meets] using And.intro hiPhone (And.intro hiPad hiPod)

theorem source_smartphone? (h : smartphone? text f = some g) : SystemSource text g := by
  unfold smartphone? at h
  extract_lets found before at h
  split at h
  · cases h
    exact .runs (.of_other (by decide))
  · obtain ⟨p, hp, rfl⟩ := Option.map_eq_some_iff.mp h
    exact .runs (speaksFor_of_smartphoneRules hp)

theorem unnamed_of_smartphone? (h : smartphone? text f = none) :
    ∀ name ∈ appleDevices, has name text = false := by
  have hrules : ∀ name ∈ appleDevices, ∃ p, (Clue.holds name, p) ∈ smartphoneRules := by
    simp [appleDevices, smartphoneRules]
  have hnone : firstMatch? smartphoneRules text = none := by
    unfold smartphone? at h
    extract_lets found before at h
    split at h
    · cases h
    · exact Option.map_eq_none_iff.mp h
  intro name hname
  obtain ⟨p, hrule⟩ := hrules name hname
  have hmissed := List.find?_eq_none.mp (Option.map_eq_none_iff.mp hnone) _ hrule
  exact Bool.eq_false_iff.mpr hmissed

theorem source_system (hf : Unsearched f) : SystemSource text (system text f).1 := by
  have hdesktop : ∀ rule ∈ desktopRules, rule.2 ∉ [.iPhone, .iPad, .iPod, .ios] := by decide
  unfold system
  split
  · next g h =>
    rcases Option.or_eq_some_iff.mp h with h | ⟨-, h⟩
    · exact source_windows? hf h
    rcases Option.or_eq_some_iff.mp h with h | ⟨-, h⟩
    · exact source_apple? h
    rcases Option.or_eq_some_iff.mp h with h | ⟨-, h⟩
    · exact source_linux? h
    rcases Option.or_eq_some_iff.mp h with h | ⟨-, h⟩
    · exact source_smartphone? h
    · exact .unsearched ((takes_network? h).unsearched hf)
  · have htranscoded : Unsearched (transcoded text f) := unsearched_transcoded hf
    dsimp only
    split
    · next g h =>
      rcases Option.or_eq_some_iff.mp h with h | ⟨-, h⟩
      · exact .unsearched ((takes_console? h).unsearched htranscoded)
      · obtain ⟨p, hp, rfl⟩ := Option.map_eq_some_iff.mp h
        obtain ⟨rule, hrule, rfl⟩ := exists_mem_of_firstMatch? hp
        exact .runs (.of_other (hdesktop rule hrule))
    · exact .unsearched htranscoded

/-- A text in which no system is found names none of the devices. -/
theorem unsearched_of_system (hf : Unsearched f) (h : system text f = (g, false)) :
    Unsearched g ∧ ∀ name ∈ appleDevices, has name text = false := by
  unfold system at h
  split at h
  · cases h
  · next hnone =>
    dsimp only at h
    split at h
    · cases h
    · cases h
      simp only [Option.or_eq_none_iff] at hnone
      exact ⟨unsearched_transcoded hf, unnamed_of_smartphone? hnone.2.2.2.1⟩

theorem source_rareCase? (hf : Unsearched f) (hnames : ∀ name ∈ appleDevices, has name text = false)
    (h : rareCase? text f = some g) : SystemSource text g := by
  unfold rareCase? at h
  rcases Option.or_eq_some_iff.mp h with h | ⟨-, h⟩
  · unfold networkLibrary? at h
    split_ifs at h
    cases h
    have hspeaks : SpeaksFor text .ios :=
      ⟨fun hdevice => absurd hdevice (by decide), fun _ => hnames⟩
    exact .searched .ios hspeaks rfl fun _ => rfl
  rcases Option.or_eq_some_iff.mp h with h | ⟨-, h⟩
  · unfold lesserBrowser? at h
    split_ifs at h
    cases h
    exact .runs (.of_other (by decide))
  split at h
  · cases h
    exact .unsearched ((takes_isProduct ..).unsearched hf)
  · split_ifs at h
    all_goals
      cases h
      exact .unsearched ((takes_populate ..).unsearched hf)

theorem source_finding? (h : finding? text = some f) : SystemSource text f := by
  have hstart : Unsearched .start := .inl rfl
  unfold finding? at h
  split_ifs at h
  · cases h
    exact .unsearched hstart
  split at h
  · cases h
    exact .unsearched ((takes_populate ..).unsearched hstart)
  split at h
  · next g hbrowser =>
    cases h
    exact source_system ((takes_browser? hbrowser).unsearched hstart)
  unfold findingAfterBrowser? at h
  rcases Option.or_eq_some_iff.mp h with h | ⟨-, h⟩
  · exact .unsearched ((takes_telephone? h).unsearched hstart)
  rcases Option.or_eq_some_iff.mp h with h | ⟨-, h⟩
  · obtain ⟨p, -, rfl⟩ := Option.map_eq_some_iff.mp h
    exact .unsearched ((takes_populate ..).unsearched hstart)
  split at h
  · next g hsystem =>
    cases h
    have hsource : SystemSource text (system text .start).1 := source_system hstart
    rwa [hsystem] at hsource
  · next g hsystem =>
    obtain ⟨hg, hnames⟩ := unsearched_of_system hstart hsystem
    exact source_rareCase? hg hnames h

theorem SystemFamily.of_iOS {system : String} (h : SystemFamily system family)
    (hfamily : family = "iOS") : system ∈ appleDevices ∨ system = "iOS" := by
  cases h with
  | apple h => exact .inl (isAppleSystem_iff.mp h)
  | kept => exact .inr hfamily
  | _ => exact absurd hfamily (by decide)

theorem BrowserFamily.not_desktop (h : BrowserFamily f family)
    (happle : isAppleSystem f.system = true) : family ∉ ["Safari", "Chrome"] := by
  cases h with
  | kept _ _ hchrome _ hsafari =>
    simp only [List.mem_cons, List.not_mem_nil, or_false]
    rintro (hname | hname)
    · rw [hsafari hname] at happle
      cases happle
    · rw [(hchrome hname).2] at happle
      cases happle
  | _ => decide

theorem BrowserFamily.eq_mobileSafari (h : BrowserFamily f family)
    (happle : isAppleSystem f.system = true) (hbelieved : f.isBelieved = true)
    (hname : f.name = "Safari") : family = "Mobile Safari" := by
  cases h with
  | safariOnApple => rfl
  | disbelieved h => simp [h] at hbelieved
  | kept _ _ _ _ h => simp [h hname] at happle
  | chromeOnAndroid _ h | chromeOnApple _ h | firefoxOnAndroid _ h => simp [hname] at h
  | explorer _ h | unrecognized _ h => simp [hname, unknown] at h

theorem BrowserFamily.eq_mobileChrome (h : BrowserFamily f family)
    (happle : isAppleSystem f.system = true) (hbelieved : f.isBelieved = true)
    (hname : f.name = "Chrome") : family = "Chrome Mobile iOS" := by
  cases h with
  | chromeOnApple => rfl
  | disbelieved h => simp [h] at hbelieved
  | kept _ _ h => simp [(h hname).2] at happle
  | chromeOnAndroid _ h => simp [h.2, isAppleSystem] at happle
  | firefoxOnAndroid _ h | safariOnApple _ h => simp [hname] at h
  | explorer _ h | unrecognized _ h => simp [hname, unknown] at h

theorem BrowserFamily.eq_of_not_believed (h : BrowserFamily f family)
    (hbelieved : f.isBelieved = false) : family = "Other" := by
  cases h with
  | disbelieved => rfl
  | _ hb => simp [hb] at hbelieved

/-- The device of the system that the devices have in common. -/
theorem DeviceFamily.of_common (h : DeviceFamily f text family) (hsystem : f.system = "iOS")
    (hcategory : f.category = some .smartphone) : family = "Other" := by
  cases h with
  | unrecognized => rfl
  | crawler _ h => simp [hcategory] at h
  | apple h => simp [hsystem, isAppleSystem] at h
  | mac h | android h => simp [hsystem] at h

/-- No other product has a system on record that is one of the devices or what they have in common. -/
theorem Unsearched.ne (h : Unsearched f) : ¬ (f.system ∈ appleDevices ∨ f.system = "iOS") := by
  have hrecord : ∀ p : Product, ∀ system ∈ p.entry.system,
      ¬ (system ∈ appleDevices ∨ system = "iOS") := by
    intro p
    cases p <;> decide
  rcases h with h | ⟨p, h⟩
  · rw [h]
    decide
  · exact hrecord p f.system h

theorem Product.eq_ios (h : p.entry.name = "iOS") : p = .ios := by
  revert h
  cases p <;> decide

/-- A client on the system of the devices either is one that its text names, with a browser that is
made for it, or its text names none of them, and then its device is not told either. -/
theorem apple_consistent {agent : String} (h : (ofUserAgent agent).operatingSystem = "iOS") :
    ((ofUserAgent agent).device ∈ appleDevices ∧
      has (ofUserAgent agent).device agent.toList = true ∧
      (ofUserAgent agent).browserFamily ∉ ["Safari", "Chrome"] ∧
      ∀ f ∈ finding? agent.toList,
        (f.isBelieved = true → f.name = "Safari" →
          (ofUserAgent agent).browserFamily = "Mobile Safari") ∧
        (f.isBelieved = true → f.name = "Chrome" →
          (ofUserAgent agent).browserFamily = "Chrome Mobile iOS") ∧
        (f.isBelieved = false → (ofUserAgent agent).browserFamily = "Other")) ∨
    ((∀ name ∈ appleDevices, has name agent.toList = false) ∧
      (ofUserAgent agent).device = "Other") := by
  unfold ofUserAgent at h ⊢
  cases hfound : finding? agent.toList with
  | none =>
    have hother : other.operatingSystem ≠ "iOS" := by decide
    rw [hfound] at h
    exact absurd h hother
  | some f =>
    rw [hfound] at h
    have hsystem : f.system ∈ appleDevices ∨ f.system = "iOS" := (systemFamily_eq f.system).of_iOS h
    have hbrowser : BrowserFamily f (ofFinding agent.toList (some f)).browserFamily :=
      browserFamily_eq f
    have hdevice : DeviceFamily f agent.toList (ofFinding agent.toList (some f)).device :=
      deviceFamily_eq f agent.toList
    cases source_finding? hfound with
    | unsearched hf => exact absurd hsystem hf.ne
    | searched p hspeaks hp hcategory =>
      rcases hsystem with hsystem | hsystem
      · left
        have happle : isAppleSystem f.system = true := isAppleSystem_iff.mpr hsystem
        have hname : (ofFinding agent.toList (some f)).device = f.system := if_pos happle
        refine ⟨by rwa [hname], ?_, hbrowser.not_desktop happle, ?_⟩
        · rw [hp] at hsystem hname
          rw [hname]
          exact hspeaks.device hsystem
        · intro found hsame
          obtain rfl : f = found := Option.some.inj hsame
          exact ⟨hbrowser.eq_mobileSafari happle, hbrowser.eq_mobileChrome happle,
            hbrowser.eq_of_not_believed⟩
      · right
        have hcommon : p = .ios := Product.eq_ios (hp.symm.trans hsystem)
        exact ⟨hspeaks.common hcommon, hdevice.of_common hsystem (hcategory hcommon)⟩

/-- A browser on a telephone. -/
theorem apple_consistent_iPhone : ∃ agent : String,
    agent = "Mozilla/5.0 (iPhone; CPU iPhone OS 17_2 like Mac OS X) Version/17.2 Safari/604.1" ∧
    (ofUserAgent agent).operatingSystem = "iOS" ∧ (ofUserAgent agent).device ∈ appleDevices ∧
    (ofUserAgent agent).browserFamily ∉ ["Safari", "Chrome"] := by
  refine ⟨_, rfl, ?_⟩
  generalize hagent :
    "Mozilla/5.0 (iPhone; CPU iPhone OS 17_2 like Mac OS X) Version/17.2 Safari/604.1" = agent
  have hsystem : (ofUserAgent agent).operatingSystem = "iOS" := by
    rw [← hagent]
    decide +kernel
  have hnamed : has "iPhone" agent.toList = true := by
    rw [← hagent]
    decide +kernel
  obtain ⟨hdevice, -, hbrowser, -⟩ | ⟨hnames, -⟩ := apple_consistent hsystem
  · exact ⟨hsystem, hdevice, hbrowser⟩
  · exact absurd hnamed (by rw [hnames "iPhone" (by decide)]; decide)

/-- A part of the system that names only its network library: there is no device to report, and its
browser keeps the name that it has on a desktop. -/
theorem apple_device_unnamed :
    ofUserAgent "MobileSafari/7534.48.3 CFNetwork/548.0.4 Darwin/11.0.0" =
      ⟨"iOS", "Safari", "Other"⟩ ∧
    ¬ ∀ agent : String, (ofUserAgent agent).operatingSystem = "iOS" →
      (ofUserAgent agent).device ∈ appleDevices ∧
        (ofUserAgent agent).browserFamily ∉ ["Safari", "Chrome"] := by
  have hclient : ofUserAgent "MobileSafari/7534.48.3 CFNetwork/548.0.4 Darwin/11.0.0" =
      ⟨"iOS", "Safari", "Other"⟩ := by decide +kernel
  refine ⟨hclient, fun h => ?_⟩
  obtain ⟨hdevice, -⟩ := h "MobileSafari/7534.48.3 CFNetwork/548.0.4 Darwin/11.0.0" (by rw [hclient])
  rw [hclient] at hdevice
  exact absurd hdevice (by decide)

end Pageviews.Client
