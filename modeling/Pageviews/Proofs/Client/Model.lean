import Pageviews.Proofs.Client.Family
import Pageviews.Proofs.Text.Cut

/-! Models of Android devices. Main statement: a model is read back from every text that has it in
its place, whatever stands around, and nothing is read that could not be a model. -/
namespace Pageviews.Client

/-- A text without the marks that part the tokens of a comment and end it. -/
def IsToken (text : List Char) : Prop := ';' ∉ text ∧ ')' ∉ text

instance (text : List Char) : Decidable (IsToken text) := inferInstanceAs (Decidable (_ ∧ _))

structure IsModel (model : List Char) : Prop where
  isToken : IsToken model
  isLabel : IsLabel model
  noBuild : ¬ " Build".toList <:+: model
  named : ∀ word ∈ ["wv", "Mobile", "Tablet"], word.toList ≠ model

/-- How a token goes on behind the model. -/
def buildText (build : Option (List Char)) : List Char :=
  build.elim [] (" Build".toList ++ ·)

/-- What an Android device sends, in its parts. -/
structure AndroidAgent where
  lead : List Char
  /-- The tokens in front of that with the version of Android. -/
  others : List (List Char)
  version : List Char
  model : List Char
  build : Option (List Char)
  more : List (List Char)
  rest : List Char
  opens : '(' ∉ lead
  before : ∀ other ∈ others, IsToken other ∧ ¬ "Android".toList <+: Text.trim other
  version_isToken : IsToken version
  isModel : IsModel model
  build_isToken : ∀ text ∈ build, IsToken text

namespace AndroidAgent

def android (agent : AndroidAgent) : List Char := " Android".toList ++ agent.version

def device (agent : AndroidAgent) : List Char := ' ' :: agent.model ++ buildText agent.build

def text (agent : AndroidAgent) : List Char :=
  agent.lead ++
    '(' :: [';'].intercalate (agent.others ++ agent.android :: agent.device :: agent.more) ++
    ')' :: agent.rest

end AndroidAgent

variable {text token model : List Char}

theorem isToken_append : IsToken (text ++ token) ↔ IsToken text ∧ IsToken token := by
  simp only [IsToken, List.mem_append, not_or]
  exact and_and_and_comm

def namesAndroid (token : List Char) : Bool := Text.leads "Android" (Text.trim token)

/-- A token stands behind the first that tells of Android, in the first parenthesis of a text.
What is further on may end the parenthesis early. -/
inductive FollowsAndroid (token : List Char) : List Char → Prop where
  | intro {lead rest android : List Char} {others more : List (List Char)} (hlead : '(' ∉ lead)
      (hothers : ∀ other ∈ others, IsToken other ∧ namesAndroid other = false)
      (handroid : IsToken android ∧ namesAndroid android = true) (htoken : IsToken token) :
      FollowsAndroid token (lead ++ '(' :: [';'].intercalate (others ++ android :: token :: more) ++
        ')' :: rest)

/-- The token that follows the one with the version of Android. -/
def androidToken? (text : List Char) : Option (List Char) := do
  let (_, rest) ← Text.cut? ['('] text
  let (platform, _) ← Text.cut? [')'] rest
  ((Text.split ';' platform).dropWhile (!namesAndroid ·)).tail.head?

def withoutBuild (token : List Char) : List Char :=
  match Text.cut? " Build".toList token with
  | some (model, _) => model
  | none => token

def modelOf? (token : List Char) : Option (List Char) :=
  let model := Text.trim (withoutBuild (Text.trim token))
  if model = [] ∨ ["wv", "Mobile", "Tablet"].any (·.toList = model) then none else some model

theorem androidModel?_eq (text : List Char) :
    androidModel? text = (androidToken? text).bind modelOf? := by
  have htokens (platform : List Char) :
      (((Text.split ';' platform).map Text.trim).dropWhile (!Text.leads "Android" ·)).tail.head? =
        (((Text.split ';' platform).dropWhile (!namesAndroid ·)).tail.head?).map Text.trim := by
    rw [List.dropWhile_map, ← List.map_tail, List.head?_map]
    rfl
  unfold androidModel? androidToken?
  simp only [htokens, Option.bind_eq_bind, Option.bind_assoc, Option.bind_map]
  refine congrArg _ (funext fun opening => congrArg _ (funext fun closing => congrArg _ ?_))
  funext token
  unfold modelOf? withoutBuild
  dsimp only [Function.comp]
  cases Text.cut? " Build".toList (Text.trim token) <;> rfl

theorem head?_tail_dropWhile_eq_some_iff {α : Type} {p : α → Bool} {l : List α} {a : α} :
    (l.dropWhile (!p ·)).tail.head? = some a ↔
      ∃ before found after, l = before ++ found :: a :: after ∧ (∀ b ∈ before, p b = false) ∧
        p found = true := by
  induction l with
  | nil => simp
  | cons b l ih =>
    cases hb : p b with
    | true =>
      rw [List.dropWhile_cons_of_neg (by simp [hb]), List.tail_cons]
      constructor
      · intro h
        obtain ⟨after, rfl⟩ := List.head?_eq_some_iff.mp h
        exact ⟨[], b, after, rfl, nofun, hb⟩
      · rintro ⟨before, found, after, hl, hbefore, -⟩
        cases before with
        | nil =>
          cases hl
          rfl
        | cons c before =>
          cases hl
          have := hbefore b List.mem_cons_self
          rw [hb] at this
          cases this
    | false =>
      rw [List.dropWhile_cons_of_pos (by simp [hb]), ih]
      constructor
      · rintro ⟨before, found, after, rfl, hbefore, hfound⟩
        exact ⟨b :: before, found, after, rfl, List.forall_mem_cons.mpr ⟨hb, hbefore⟩, hfound⟩
      · rintro ⟨before, found, after, hl, hbefore, hfound⟩
        cases before with
        | nil =>
          cases hl
          rw [hb] at hfound
          cases hfound
        | cons c before =>
          cases hl
          exact ⟨before, found, after, rfl, (List.forall_mem_cons.mp hbefore).2, hfound⟩

theorem IsToken.of_mem_split {platform : List Char} (hclosed : ')' ∉ platform)
    (h : token ∈ Text.split ';' platform) : IsToken token :=
  ⟨fun hmem => (Text.mem_of_mem_split h hmem).2 rfl,
    fun hmem => hclosed (Text.mem_of_mem_split h hmem).1⟩

/-- Tokens in front of a comment are the first of its tokens, also where the comment ends early. -/
theorem exists_split_platform {known : List (List Char)} (hne : known ≠ [])
    (hknown : ∀ token ∈ known, IsToken token) (more : List (List Char)) (rest : List Char) :
    ∃ platform after more', Text.cut? [')'] ([';'].intercalate (known ++ more) ++ ')' :: rest) =
        some (platform, after) ∧ Text.split ';' platform = known ++ more' := by
  let tail := more.flatMap (';' :: ·) ++ ')' :: rest
  have hmem : ')' ∈ tail := List.mem_append_right _ List.mem_cons_self
  obtain ⟨piece, after, htail, hpiece⟩ := List.eq_append_cons_of_mem hmem
  have hclosed : ')' ∉ [';'].intercalate known :=
    Text.not_mem_intercalate (by decide) (fun token h => (hknown token h).1)
      fun token h => (hknown token h).2
  refine ⟨[';'].intercalate known ++ piece, after, ?_⟩
  rw [Text.intercalate_append hne, List.append_assoc, show more.flatMap _ ++ _ = tail from rfl,
    Text.cut?_mark_eq_some_iff, htail, List.append_assoc, List.mem_append, not_or]
  suffices h : ∃ more', Text.split ';' ([';'].intercalate known ++ piece) = known ++ more' by
    obtain ⟨more', h⟩ := h
    exact ⟨more', ⟨rfl, hclosed, hpiece⟩, h⟩
  have hsep : ∀ token ∈ known, ';' ∉ token := fun token h => (hknown token h).1
  cases piece with
  | nil => exact ⟨[], by rw [List.append_nil, List.append_nil, Text.split_intercalate hne hsep]⟩
  | cons c piece =>
    -- what follows the tokens begins with a separator, if not with the end of the comment
    have hc : c = ';' := by
      cases more with
      | nil =>
        have hclosing : ')' = c := (List.cons.inj htail).1
        exact absurd (hclosing ▸ List.mem_cons_self) hpiece
      | cons => exact (List.cons.inj htail).1.symm
    exact ⟨Text.split ';' piece, by rw [hc, Text.split_intercalate_append hne hsep]⟩

theorem androidToken?_eq_some_iff : androidToken? text = some token ↔ FollowsAndroid token text := by
  unfold androidToken?
  simp only [Option.bind_eq_bind, Option.bind_eq_some_iff, head?_tail_dropWhile_eq_some_iff,
    Prod.exists, Text.cut?_mark_eq_some_iff]
  constructor
  · rintro ⟨lead, _, ⟨rfl, hlead⟩, platform, rest, ⟨rfl, hclosed⟩, others, android, more, hsplit,
      hothers, handroid⟩
    have htokens : ∀ other ∈ others ++ android :: token :: more, IsToken other := fun other h =>
      .of_mem_split hclosed (hsplit ▸ h)
    simp only [List.forall_mem_append, List.forall_mem_cons] at htokens
    obtain ⟨hplain, handroid', htoken, -⟩ := htokens
    have hplatform : platform = [';'].intercalate (others ++ android :: token :: more) := by
      rw [← hsplit, Text.intercalate_split]
    have h : FollowsAndroid token (lead ++
        '(' :: [';'].intercalate (others ++ android :: token :: more) ++ ')' :: rest) :=
      .intro hlead (fun other h => ⟨hplain other h, hothers other h⟩) ⟨handroid', handroid⟩ htoken
    rwa [List.append_assoc, List.cons_append, ← hplatform] at h
  · rintro (@⟨lead, rest, android, others, more, hlead, hothers, handroid, htoken⟩)
    have hknown : ∀ token' ∈ others ++ [android, token], IsToken token' := by
      simp only [List.forall_mem_append, List.forall_mem_cons]
      exact ⟨fun other h => (hothers other h).1, handroid.1, htoken, nofun⟩
    obtain ⟨platform, after, more', hcut, hsplit⟩ :=
      exists_split_platform (by simp) hknown more rest
    rw [Text.cut?_mark_eq_some_iff] at hcut
    refine ⟨lead, _, ⟨?_, hlead⟩, platform, after, hcut, others, android, more', ?_,
      fun other h => (hothers other h).2, handroid.2⟩
    · simp
    · simpa using hsplit

theorem IsToken.of_isInfix (h : IsToken text) (hpart : token <:+: text) : IsToken token :=
  ⟨fun hmem => h.1 (hpart.mem hmem), fun hmem => h.2 (hpart.mem hmem)⟩

theorem IsLabel.trim_eq (h : IsLabel text) {left : List Char}
    (hleft : ∀ c ∈ left, Text.isBlank c = true) : Text.trim (left ++ text) = text :=
  (Text.TrimsTo.eq_trimWhere
    ⟨⟨left, [], (List.append_nil _).symm, hleft, nofun⟩, h.head, h.last⟩).symm

theorem IsLabel.isPrefix_trim (h : IsLabel text) {left : List Char}
    (hleft : ∀ c ∈ left, Text.isBlank c = true) (right : List Char) :
    text <+: Text.trim (left ++ text ++ right) :=
  Text.prefix_trimWhere hleft h.head h.last

theorem IsLabel.append_build (h : IsLabel model) : IsLabel (model ++ " Build".toList) where
  nonempty := List.append_ne_nil_of_left_ne_nil h.nonempty _
  head := by
    rw [List.head?_append_of_ne_nil _ h.nonempty]
    exact h.head
  last := by
    rw [show " Build".toList = " Buil".toList ++ ['d'] from rfl, ← List.append_assoc,
      List.getLast?_concat]
    rintro _ ⟨⟩
    rfl

theorem cut?_build_eq_some_iff {before after : List Char} :
    Text.cut? " Build".toList text = some (before, after) ↔
      text = before ++ " Build".toList ++ after ∧ ¬ " Build".toList <:+: before := by
  have hblank : ' ' ∉ "Build".toList := by decide
  exact Text.cut?_eq_some_iff hblank

theorem withoutBuild_isPrefix (token : List Char) : withoutBuild token <+: token := by
  unfold withoutBuild
  split
  · next model rest hcut =>
    rw [(cut?_build_eq_some_iff.mp hcut).1, List.append_assoc]
    exact List.prefix_append ..
  · exact List.prefix_rfl

theorem not_isInfix_withoutBuild (token : List Char) :
    ¬ " Build".toList <:+: withoutBuild token := by
  unfold withoutBuild
  split
  · next hcut => exact (cut?_build_eq_some_iff.mp hcut).2
  · next hcut => exact Text.cut?_eq_none_iff.mp hcut

theorem modelOf?_eq_some_iff : modelOf? token = some model ↔
    Text.trim (withoutBuild (Text.trim token)) = model ∧ model ≠ [] ∧
      ∀ word ∈ ["wv", "Mobile", "Tablet"], word.toList ≠ model := by
  unfold modelOf?
  generalize Text.trim (withoutBuild (Text.trim token)) = found
  simp only [List.any_eq_true, decide_eq_true_eq]
  split
  · next hno =>
    simp only [reduceCtorEq, false_iff, not_and]
    rintro rfl hne hwords
    obtain hnil | ⟨word, hword, heq⟩ := hno
    · exact hne hnil
    · exact hwords word hword heq
  · next hmodel =>
    rw [not_or] at hmodel
    rw [Option.some_inj]
    constructor
    · rintro rfl
      exact ⟨rfl, hmodel.1, fun word hword heq => hmodel.2 ⟨word, hword, heq⟩⟩
    · exact fun h => h.1

theorem isModel_of_modelOf? (htoken : IsToken token) (h : modelOf? token = some model) :
    IsModel model := by
  obtain ⟨rfl, hne, hnamed⟩ := modelOf?_eq_some_iff.mp h
  have hpart := Text.trimWhere_isInfix Text.isBlank (withoutBuild (Text.trim token))
  have hwhole : withoutBuild (Text.trim token) <:+: token :=
    (withoutBuild_isPrefix _).isInfix.trans (Text.trimWhere_isInfix _ token)
  exact ⟨htoken.of_isInfix (hpart.trans hwhole), isLabel_trim hne,
    fun hmem => not_isInfix_withoutBuild _ (hmem.trans hpart), hnamed⟩

theorem IsModel.withoutBuild_eq (h : IsModel model) (build : Option (List Char)) :
    withoutBuild (Text.trim (' ' :: model ++ buildText build)) = model := by
  have hblank : ∀ c ∈ [' '], Text.isBlank c = true := List.forall_mem_singleton.mpr rfl
  cases build with
  | none =>
    have htrim : Text.trim ([' '] ++ model) = model := h.isLabel.trim_eq hblank
    rw [buildText, Option.elim_none, List.append_nil, ← List.singleton_append, htrim, withoutBuild,
      Text.cut?_eq_none_iff.mpr h.noBuild]
  | some more =>
    -- only the end is trimmed, which lies behind the word
    obtain ⟨rest, hrest⟩ := h.isLabel.append_build.isPrefix_trim hblank more
    have htoken : ' ' :: model ++ buildText (some more) =
        [' '] ++ (model ++ " Build".toList) ++ more := by simp [buildText]
    rw [htoken, ← hrest, withoutBuild, cut?_build_eq_some_iff.mpr ⟨rfl, h.noBuild⟩]

theorem IsModel.modelOf?_eq (h : IsModel model) (build : Option (List Char)) :
    modelOf? (' ' :: model ++ buildText build) = some model := by
  have htrim : Text.trim ([] ++ model) = model := h.isLabel.trim_eq nofun
  rw [modelOf?_eq_some_iff, h.withoutBuild_eq]
  exact ⟨htrim, h.isLabel.nonempty, h.named⟩

namespace AndroidAgent

theorem isToken_android (agent : AndroidAgent) : IsToken agent.android :=
  isToken_append.mpr ⟨by decide, agent.version_isToken⟩

theorem namesAndroid_android (agent : AndroidAgent) : namesAndroid agent.android = true := by
  have hword : IsLabel "Android".toList :=
    ⟨nofun, by rintro _ ⟨⟩; rfl, by rintro _ ⟨⟩; rfl⟩
  have hblank : ∀ c ∈ [' '], Text.isBlank c = true := List.forall_mem_singleton.mpr rfl
  exact Text.leads_iff.mpr (hword.isPrefix_trim hblank agent.version)

theorem isToken_device (agent : AndroidAgent) : IsToken agent.device := by
  have hmodel : IsToken ([' '] ++ agent.model) :=
    isToken_append.mpr ⟨by decide, agent.isModel.isToken⟩
  refine isToken_append.mpr ⟨hmodel, ?_⟩
  cases hbuild : agent.build with
  | none => exact ⟨nofun, nofun⟩
  | some build => exact isToken_append.mpr ⟨by decide, agent.build_isToken build hbuild⟩

theorem followsAndroid (agent : AndroidAgent) : FollowsAndroid agent.device agent.text := by
  refine .intro agent.opens (fun other h => ?_) ⟨agent.isToken_android, agent.namesAndroid_android⟩
    agent.isToken_device
  obtain ⟨htoken, hother⟩ := agent.before other h
  exact ⟨htoken, Bool.eq_false_iff.mpr (mt Text.leads_iff.mp hother)⟩

end AndroidAgent

/-- A model is read back from every text that has it behind the version of Android, whatever stands
in front of the parenthesis, in other tokens, in the build and behind; and what is read from any
text at all is a model. -/
theorem model_read_back :
    (∀ agent : AndroidAgent, androidModel? agent.text = some agent.model) ∧
      ∀ text model, androidModel? text = some model → IsModel model := by
  constructor
  · intro agent
    rw [androidModel?_eq, androidToken?_eq_some_iff.mpr agent.followsAndroid, Option.bind_some,
      AndroidAgent.device, agent.isModel.modelOf?_eq]
  · intro text model h
    rw [androidModel?_eq, Option.bind_eq_some_iff] at h
    obtain ⟨token, hfollows, hmodel⟩ := h
    cases androidToken?_eq_some_iff.mp hfollows with
    | intro _ _ _ htoken => exact isModel_of_modelOf? htoken hmodel

/-- A model that ends like the word for a build, in front of a build with that word, between tokens
with parentheses and in front of a second comment. -/
theorem model_read_back_overlap : ∃ agent : AndroidAgent,
    String.ofList agent.text =
      "Moz) (Linux (x; U; Android 14\u2003; K Bu Build/A Build; wv) a) (Android 1; Z)" ∧
    IsModel "K Bu".toList ∧ androidModel? agent.text = some "K Bu".toList := by
  have hplain : androidModel? "(Android;K Bu)".toList = some "K Bu".toList := by decide
  have hmodel : IsModel "K Bu".toList := model_read_back.2 _ _ hplain
  let agent : AndroidAgent :=
    { lead := "Moz) ".toList, others := ["Linux (x".toList, " U".toList], version := " 14\u2003".toList
      model := "K Bu".toList, build := some "/A Build".toList, more := [" wv) a".toList]
      rest := " (Android 1; Z)".toList, opens := by decide, before := by decide
      version_isToken := by decide, isModel := hmodel, build_isToken := by decide }
  exact ⟨agent, rfl, hmodel, model_read_back.1 agent⟩

end Pageviews.Client
