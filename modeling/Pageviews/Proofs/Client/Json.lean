import Pageviews.Client.Json
import Pageviews.Proofs.Json.RecordTexts

/-! Clients as JSON texts. Main statement: a text is read as a client if it holds the strings of
one, and only then; what is written of a client is such a text. -/
namespace Pageviews.Client

/-- What is written of a client is read back, whatever characters its strings have. -/
theorem ofJson_toJson (c : Client) : ofJson c.toJson = .ok c := by
  let members : List Json.Member :=
    [("operating_system", c.operatingSystem), ("browser_family", c.browserFamily),
      ("device", c.device)]
  have hnodup : (members.map Prod.fst).Nodup := by
    show ["operating_system", "browser_family", "device"].Nodup
    decide
  have hread : Json.readRecord (memberNames.map String.toList) (c.toJson.toList ++ []) =
      .ok ([c.operatingSystem.toList, c.browserFamily.toList, c.device.toList], []) :=
    Json.readRecord_writeObject hnodup []
  rw [List.append_nil] at hread
  have hskip : Json.skipBlanks [] = [] := rfl
  simp [ofJson, Json.readAll, hread, hskip, bind, Except.bind, pure, Except.pure]

theorem ofJson_eq_ok_iff {text : String} {c : Client} : ofJson text = .ok c ↔
    Json.readAll (Json.readRecord (memberNames.map String.toList)) text.toList =
      .ok [c.operatingSystem.toList, c.browserFamily.toList, c.device.toList] := by
  constructor
  · intro h
    obtain ⟨strings, hread, h⟩ := bind_eq_ok_iff.mp h
    split at h
    · cases h
      simpa using hread
    · cases h
  · intro hread
    refine bind_eq_ok_iff.mpr ⟨_, hread, ?_⟩
    simp [pure, Except.pure]

/-- What is written of a client is read back; and a text is read as a client if it is an object
that has a string for each of the three names, or an array of three strings, with nothing but blanks
around it. How it is spelled, and what else the object has, does not matter. -/
theorem json_reads_exactly :
    (∀ c : Client, ofJson c.toJson = .ok c) ∧
    ∀ (text : String) (c : Client), ofJson text = .ok c ↔
      ∃ s : Json.Slot, s.text = text.toList ∧ Json.IsRecord
        ["operating_system".toList, "browser_family".toList, "device".toList]
        [c.operatingSystem.toList, c.browserFamily.toList, c.device.toList] s.inner :=
  ⟨ofJson_toJson, fun _ _ => ofJson_eq_ok_iff.trans Json.readAll_readRecord_eq_ok_iff⟩

end Pageviews.Client
