/-
  What the schema of settings lets through.

  Whatever is said of a setting, and in whichever of the places where it may be said, the settings
  that come out are VALID: numbers within their bounds, a default layout that exists, a log level
  that is one.  Nothing has to be known of the places for this.  Each setting went through its own
  check or is its default, and the defaults are valid.
-/
import ScenePrompt.Proofs.Schema.Scene
import ScenePrompt.Settings.Source

namespace ScenePrompt

open Schema Checked Outcome

/-! ## Bounds and choices -/

theorem Schema.mem_of_choice {choices : List String} (v : Json) (s : String)
    (h : choice choices v = .ok s) : s ∈ choices := by
  unfold choice at h
  split at h
  · split at h
    · rename_i hmem
      cases h
      exact hmem
    · cases h
  · cases h

/-- A number that must be between two bounds is, wherever and however it was written. -/
theorem WholeNumber.bounds_of_between {low high : Int} (v : Json) (n : Int)
    (h : between low high v = .ok n) : low ≤ n ∧ n ≤ high := by
  unfold between at h
  split at h
  · rename_i m hm
    have hlow : low ≤ m := (atLeast_of_ok hm).2
    by_cases hlt : high < m
    · rw [if_pos hlt] at h
      cases h
    · rw [if_neg hlt] at h
      cases h
      omega
  · cases h

/-- A log level is a known one, after its letters were raised if it is a text. -/
theorem Settings.mem_of_logLevelCheck (v : Json) (s : String) (h : logLevelCheck v = .ok s) :
    s ∈ logLevels := by
  unfold logLevelCheck at h
  split at h
  · exact mem_of_choice _ s h
  · exact mem_of_choice _ s h

/-! ## Settings -/

namespace Settings

/-- What settings are that were read. -/
structure Valid (settings : Settings) : Prop where
  minMicroDetails_le : 0 ≤ settings.minMicroDetails
  minFocusTargetWords_le : 1 ≤ settings.minFocusTargetWords
  defaultOutputMode_mem : settings.defaultOutputMode ∈ Layout.names
  serverPort_bounds : 1024 ≤ settings.serverPort ∧ settings.serverPort ≤ 65535
  logLevel_mem : settings.logLevel ∈ logLevels

/-- What the schema of settings lets through is valid. -/
theorem valid_of_check {entries : Entries} {settings : Settings}
    (h : check entries = .ok settings) : settings.Valid := by
  -- the settings from the last to the first, as the checks are nested
  obtain ⟨_, _, h6, -, rfl⟩ := ap_eq_ok_iff.1 h
  obtain ⟨_, level, h5, hlevel, rfl⟩ := ap_eq_ok_iff.1 h6
  obtain ⟨_, port, h4, hport, rfl⟩ := ap_eq_ok_iff.1 h5
  obtain ⟨_, host, h3, -, rfl⟩ := ap_eq_ok_iff.1 h4
  obtain ⟨_, mode, h2, hmode, rfl⟩ := ap_eq_ok_iff.1 h3
  obtain ⟨_, words, h1, hwords, rfl⟩ := ap_eq_ok_iff.1 h2
  obtain ⟨details, hdetails, rfl⟩ := map_eq_ok_iff.1 h1
  refine ⟨?_, ?_, ?_, ?_, ?_⟩
  · exact of_optionalEntry (by decide) (fun _ _ hn => (WholeNumber.atLeast_of_ok hn).2) hdetails
  · exact of_optionalEntry (by decide) (fun _ _ hn => (WholeNumber.atLeast_of_ok hn).2) hwords
  · exact of_optionalEntry (by decide) mem_of_choice hmode
  · exact of_optionalEntry (P := fun n : Int => 1024 ≤ n ∧ n ≤ 65535) (by decide)
      WholeNumber.bounds_of_between hport
  · exact of_optionalEntry (by decide) mem_of_logLevelCheck hlevel

end Settings

end ScenePrompt
