import AssetCache.Proofs.Duration.Text
import AssetCache.Proofs.Json.Records
import AssetCache.Settings.Json

/-!
# Options of a cache survive their formats

The options of a cache are given back by the text they are written as, and by settings that hold
the texts of their durations (`CacheConfig.survives_formats`).
-/

namespace AssetCache

open Json

/-- A duration as the text of a setting. -/
def Duration.setting (duration : Duration) : String :=
  String.ofList duration.toText

/-- A setting that holds a duration is read as that duration, and one that is absent as none. -/
lemma Settings.getDuration?_eq {settings : Settings} {key : String} {duration : Option Duration}
    (held : settings.get? key = duration.map Duration.setting) :
    settings.getDuration? key = .ok duration := by
  rw [getDuration?, held]
  cases duration with
  | none => rfl
  | some duration => simp [Duration.setting, duration.ofText_trim_toText]

namespace CacheConfig

lemma denotes_optionalDuration (duration : Option Duration) :
    Denotes (readOptional readDuration) (optionalDuration duration) duration := by
  cases duration with
  | none => exact denotes_null readDuration
  | some duration =>
    refine ⟨_, spells_string duration.toText, fun rest => ?_⟩
    simp [readOptional, readDuration, readString, duration.ofText_toText, bind, Except.bind, pure,
      Except.pure]

/-- What is read of options once the members of the given names are. -/
def part (config : CacheConfig) (done : List String) : Partly where
  defaultTtl := if "default_ttl" ∈ done then some config.defaultTtl else none
  cleanupInterval := if "cleanup_interval" ∈ done then some config.cleanupInterval else none

lemma denotes {config : CacheConfig} {written : List (String × List Char)}
    (order : written.Perm config.members) : Denotes schema.read (object written) config := by
  apply Schema.denotes_of_perm config.part _ _ _ _ order
  · simp [part, schema]
  · simp [members]
  · intro done member among fresh
    simp only [members, List.mem_cons, List.not_mem_nil, or_false] at among
    rcases among with rfl | rfl
    · exact Schema.takes_once rfl (if_neg fresh) (denotes_optionalDuration _) (by simp [part])
    · exact Schema.takes_once rfl (if_neg fresh) (denotes_optionalDuration _) (by simp [part])
  · intro done all
    simp only [members, List.forall_mem_cons] at all
    simp [part, schema, all]

/-- Options are read back from their text, and from any settings in which the two durations, where
they are not absent, stand as the text writes them: for durations of any length, up to the
largest. -/
theorem survives_formats (config : CacheConfig) :
    ofJson? config.toJson = .ok config ∧
      ∀ settings : Settings, settings.get? "cache.ttl" = config.defaultTtl.map Duration.setting →
        settings.get? "cache.cleanup_interval" = config.cleanupInterval.map Duration.setting →
        ofSettings settings = .ok config := by
  refine ⟨readText_of_denotes (denotes (List.Perm.refl _)), fun settings ttl interval => ?_⟩
  rw [ofSettings, Settings.getDuration?_eq ttl, Settings.getDuration?_eq interval]
  rfl

/-- The largest duration as the lifetime, and no interval. -/
theorem survives_formats_largest :
    ofSettings (Settings.setAll ∅ [("blob.max_bytes", "1"), ("cache.ttl",
      "584542046090years 7months 15days 17h 5m 3s 999ms 999us 999ns")]) =
      .ok ⟨some ⟨18446744073709551615, 999999999, by decide⟩, none⟩ := by
  apply (survives_formats ⟨some ⟨18446744073709551615, 999999999, by decide⟩, none⟩).2
  · decide +kernel
  · decide +kernel

end CacheConfig

end AssetCache
