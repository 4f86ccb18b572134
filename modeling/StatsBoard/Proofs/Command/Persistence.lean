import StatsBoard.Command.Run
import StatsBoard.Proofs.Command.Arguments
import StatsBoard.Proofs.Config.Resolution
import StatsBoard.Proofs.Config.RoundTrip
import StatsBoard.Proofs.File

/-!
# Profiles are kept

A run touches the file of profiles only to store the profile it names (`Command.stores_exactly`),
and what it stores is what later runs find: a run with the same arguments does the same again and
leaves the file alone, and so does a run that only names the profile (`Command.runs_repeatable`).
Both hold on every disk that keeps the file.
-/

namespace StatsBoard.Command

open Json

variable {σ : Type} {disk : Disk (StateM σ)} {environment : Environment}
  {contents : σ → Except FileFault String} {sound : σ → Prop} {arguments : Arguments} {s : σ}

/-- The profiles that the file holds, if they can be read. -/
abbrev loaded (environment : Environment) (contents : σ → Except FileFault String) (s : σ) :
    Except ConfigError Profiles :=
  Profiles.ofFile environment.profilesPath (contents s)

/-- Profiles are loaded only from a file that can be read or is missing. -/
theorem not_found_of_loaded {profiles : Profiles}
    (h : loaded environment contents s = .ok profiles) :
    ∀ fault, contents s = .error fault → fault = .notFound := by
  intro fault hfault
  rw [loaded, hfault] at h
  cases fault with
  | notFound => rfl
  | _ => cases h

/-- Two steps on a disk, one after the other. -/
theorem bind_apply {α β : Type} {step : StateM σ α} {next : α → StateM σ β} {a : α} {s t : σ}
    (h : step s = (a, t)) : (step >>= next) s = next a t := by
  simp only [bind, StateT.bind, h]

section Resolving

variable (hdisk : disk.Keeps environment.profilesDirectory environment.profilesPath contents sound)
  (hs : sound s)

include hdisk hs

/-- Loading profiles changes nothing. -/
theorem load_eq : Profiles.load disk environment s = (loaded environment contents s, s) :=
  bind_apply (hdisk.read s hs)

/-- A run fails if the profiles cannot be loaded, and changes nothing. -/
theorem resolve_of_unloaded {error : ConfigError}
    (h : loaded environment contents s = .error error) :
    resolve disk environment arguments s = (.error error, s) := by
  have hload := load_eq hdisk hs
  rw [h] at hload
  exact bind_apply hload

/-- A run that stores nothing changes nothing. -/
theorem resolve_of_idle {profiles : Profiles} (h : loaded environment contents s = .ok profiles)
    (hidle : ∀ resolution, profiles.resolve arguments.choice arguments.changes = .ok resolution →
      resolution.stored = none) :
    resolve disk environment arguments s =
      (profiles.resolve arguments.choice arguments.changes, s) := by
  have hload := load_eq hdisk hs
  rw [h] at hload
  refine (bind_apply hload).trans ?_
  dsimp only
  cases hresolve : profiles.resolve arguments.choice arguments.changes with
  | error error => rfl
  | ok resolution =>
      dsimp only
      rw [hidle resolution hresolve]
      rfl

/-- A run that stores profiles writes their text. -/
theorem resolve_of_storing {profiles stored : Profiles} {resolution : Resolution}
    (h : loaded environment contents s = .ok profiles)
    (hresolve : profiles.resolve arguments.choice arguments.changes = .ok resolution)
    (hstored : resolution.stored = some stored) :
    ∃ after, resolve disk environment arguments s = (.ok resolution, after) ∧ sound after ∧
      contents after = .ok stored.text := by
  obtain ⟨made, written, hmake, hwrite, hsound, hcontents⟩ :=
    hdisk.write s stored.text hs (not_found_of_loaded h)
  have hsave : stored.save disk environment s = (.ok (), written) :=
    (bind_apply hmake).trans (bind_apply hwrite)
  have hload := load_eq hdisk hs
  rw [h] at hload
  refine ⟨written, (bind_apply hload).trans ?_, hsound, hcontents⟩
  dsimp only
  rw [hresolve]
  dsimp only
  rw [hstored]
  exact bind_apply hsave

/-- A run stores a configuration under the name of its profile, or it stores nothing and leaves the
disk as it is. -/
theorem resolve_cases (arguments : Arguments) :
    (∃ profiles name config, loaded environment contents s = .ok profiles ∧
      profiles.Stores arguments.choice arguments.changes name config) ∨
    ((resolve disk environment arguments s).2 = s ∧
      ∀ resolution, (resolve disk environment arguments s).1 = .ok resolution →
        resolution.stored = none) := by
  cases h : loaded environment contents s with
  | error error =>
      rw [resolve_of_unloaded hdisk hs h]
      exact .inr ⟨rfl, fun _ h => nomatch h⟩
  | ok profiles =>
      by_cases hstores : ∃ name config,
          profiles.Stores arguments.choice arguments.changes name config
      · obtain ⟨name, config, hstores⟩ := hstores
        exact .inl ⟨profiles, name, config, rfl, hstores⟩
      · have hidle : ∀ resolution,
            profiles.resolve arguments.choice arguments.changes = .ok resolution →
              resolution.stored = none := fun _ => Profiles.stored_of_not_stores
          fun name config h => hstores ⟨name, config, h⟩
        rw [resolve_of_idle hdisk hs h hidle]
        exact .inr ⟨rfl, hidle⟩

end Resolving

/-- The numbers of loaded profiles fit their types, and their bounds are finite. -/
theorem fits_of_loaded {profiles : Profiles} (h : loaded environment contents s = .ok profiles) :
    profiles.Fits ∧ ∀ x ∈ profiles.bounds, x.isFinite := by
  unfold loaded Profiles.ofFile at h
  split at h
  · split at h
    · cases h
      exact Profiles.yields_decoder.read ‹_›
    · cases h
  · cases h
    exact ⟨Profiles.fits_empty, fun _ h => absurd h List.not_mem_nil⟩
  · cases h

/-- What a run stores is what is loaded after it. -/
theorem loaded_after_storing {t : σ} {profiles : Profiles} {name : String} {config : Config}
    (hload : loaded environment contents s = .ok profiles) (hchanges : arguments.changes.Fits)
    (hstores : profiles.Stores arguments.choice arguments.changes name config)
    (hread : FiniteReadBack profiles.bounds)
    (hcontents : contents t = .ok (profiles.put name config).text) :
    loaded environment contents t = .ok (profiles.put name config) := by
  obtain ⟨hfits, hfinite⟩ := fits_of_loaded hload
  obtain ⟨hconfig, hbounds⟩ := @Profiles.Fits.config_for _ arguments.choice _ hfits hchanges
  rw [← hstores.config_eq] at hconfig hbounds
  have hold : ∀ x ∈ (profiles.put name config).bounds, x ∈ profiles.bounds :=
    fun x hx => (Profiles.mem_bounds_put hx).elim (hbounds x) id
  have hparse : Profiles.parse (profiles.put name config).text = .ok (profiles.put name config) :=
    (hfits.put hconfig).parse_text (fun x hx => hfinite x (hold x hx))
      fun x hx => hread x (hold x hx)
  rw [loaded, hcontents]
  simp only [Profiles.ofFile, hparse]

/-- A run that chooses a profile and does not change its configuration works with it and leaves the
disk as it is. -/
theorem resolve_of_kept
    (hdisk : disk.Keeps environment.profilesDirectory environment.profilesPath contents sound)
    (hs : sound s) {profiles : Profiles} {name : String} {config : Config}
    (hload : loaded environment contents s = .ok profiles)
    (hget : profiles.get? name = some config) (hname : arguments.profile = some name)
    (hchanges : arguments.changes.apply config = config) (hvalid : config.validate = .ok ()) :
    resolve disk environment arguments s = (.ok { config := config }, s) := by
  have hresolve : profiles.resolve arguments.choice arguments.changes =
      .ok { config := config } := by
    rw [Arguments.choice, hname]
    exact Profiles.resolve_of_kept hget hchanges hvalid
  rw [resolve_of_idle hdisk hs hload, hresolve]
  intro resolution h
  cases hresolve.symm.trans h
  rfl

/-- Running again with the same arguments comes to the same and leaves the disk as it is; and once a
run has stored a configuration under a name, every run that chooses this profile and wishes nothing
works with that configuration and leaves the disk as it is. -/
theorem runs_repeatable
    (hdisk : disk.Keeps environment.profilesDirectory environment.profilesPath contents sound)
    (hs : sound s) {words : List String} (hwords : Arguments.parse words = .ok arguments)
    (hread : ∀ profiles, loaded environment contents s = .ok profiles →
      FiniteReadBack profiles.bounds)
    {outcome again : Except ConfigError Resolution} {after last : σ}
    (hfirst : resolve disk environment arguments s = (outcome, after))
    (hsecond : resolve disk environment arguments after = (again, last)) :
    (again.map (·.config) = outcome.map (·.config) ∧ last = after) ∧
      ∀ name resolution, arguments.profile = some name → outcome = .ok resolution →
        resolution.stored ≠ none →
          ∀ (later : Arguments) (t : σ), later.profile = some name → later.changes = { } →
            sound t → contents t = contents after →
              resolve disk environment later t = (.ok { config := resolution.config }, t) := by
  by_cases hstoring : ∃ profiles name config, loaded environment contents s = .ok profiles ∧
      profiles.Stores arguments.choice arguments.changes name config
  · obtain ⟨profiles, name, config, hload, hstores⟩ := hstoring
    obtain ⟨log, hresolve⟩ := Profiles.resolve_of_stores hstores
    obtain ⟨stored, heq, hsound, hcontents⟩ := resolve_of_storing hdisk hs hload hresolve rfl
    cases hfirst.symm.trans heq
    have hname : arguments.profile = some name := by
      obtain ⟨overwrite, hchosen, -⟩ := hstores.chosen
      obtain ⟨chosen, hprofile, heq⟩ := Option.map_eq_some_iff.mp hchosen
      cases heq
      exact hprofile
    have hafter : ∀ t, contents t = contents after →
        loaded environment contents t = .ok (profiles.put name config) := fun t ht =>
      loaded_after_storing hload (Arguments.fits_of_parse hwords) hstores (hread profiles hload)
        (ht.trans hcontents)
    have hget := profiles.get_put_self name config
    have hgranted : arguments.changes.apply config = config := by
      rw [hstores.config_eq]
      exact ConfigChanges.apply_apply ..
    constructor
    · have hagain :=
        resolve_of_kept hdisk hsound (hafter after rfl) hget hname hgranted hstores.valid
      cases hsecond.symm.trans hagain
      exact ⟨rfl, rfl⟩
    · rintro chosen resolution hchosen ⟨⟩ - later t hlater hwishes ht hsame
      cases hname.symm.trans hchosen
      refine resolve_of_kept hdisk ht (hafter t hsame) hget hlater ?_ hstores.valid
      rw [hwishes, ConfigChanges.apply_nothing]
  · obtain ⟨hsame, hidle⟩ := (resolve_cases hdisk hs arguments).resolve_left hstoring
    rw [hfirst] at hsame hidle
    obtain rfl : after = s := hsame
    cases hfirst.symm.trans hsecond
    refine ⟨⟨rfl, rfl⟩, ?_⟩
    rintro name resolution - houtcome hstored
    exact absurd (hidle resolution houtcome) hstored

/-- After a first run has stored a profile, running again and running with the name of the profile
alone change nothing. -/
theorem runs_repeatable_new_profile :
    ∃ arguments resolution after,
      Arguments.parse ["-P", "p", "-w", "a"] = .ok arguments ∧
      resolve FileTree.disk { configHome := some "/c" } arguments { } = (.ok resolution, after) ∧
      (resolve FileTree.disk { configHome := some "/c" } arguments after).2 = after ∧
      resolve FileTree.disk { configHome := some "/c" } { profile := some "p" } after =
        (.ok { config := { watchers := ["a"] } }, after) := by
  have hdisk := FileTree.keeps_profiles { configHome := some "/c" }
  have hwords : Arguments.parse ["-P", "p", "-w", "a"] =
      .ok { profile := some "p", changes := { watchers := ["a"] } } := by
    decide +kernel
  have hload : loaded { configHome := some "/c" } (FileTree.read · "/c/watchdash/profiles.json")
      { } = .ok { } := by
    decide +kernel
  have hread : ∀ profiles, loaded { configHome := some "/c" }
      (FileTree.read · "/c/watchdash/profiles.json") { } = .ok profiles →
        FiniteReadBack profiles.bounds := by
    intro profiles h
    cases hload.symm.trans h
    exact fun x hx => absurd hx List.not_mem_nil
  have hstores : Profiles.Stores { } (some ⟨"p", false⟩) { watchers := ["a"] } "p"
      { watchers := ["a"] } :=
    ⟨rfl, by decide +kernel, false, rfl, .inl rfl⟩
  obtain ⟨log, hresolve⟩ := Profiles.resolve_of_stores hstores
  obtain ⟨after, hfirst, hafter, -⟩ :=
    @resolve_of_storing _ _ _ _ _ { profile := some "p", changes := { watchers := ["a"] } } _
      hdisk FileTree.closed_empty _ _ _ hload hresolve rfl
  have hrepeat := runs_repeatable hdisk FileTree.closed_empty hwords hread hfirst rfl
  exact ⟨_, _, after, hwords, hfirst, hrepeat.1.2,
    hrepeat.2 "p" _ rfl rfl (fun h => nomatch h) { profile := some "p" } after rfl rfl hafter rfl⟩

end StatsBoard.Command
