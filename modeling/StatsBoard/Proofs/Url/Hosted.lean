import StatsBoard.Proofs.Success
import StatsBoard.Proofs.Url.Path

/-!
# Addresses with a host

An address that is read under a scheme with a host has one, and its path is a list of segments
(`Url.hosted_of_parse`). So its scheme can be changed and segments can be added to its path.
-/

namespace StatsBoard.Url

open Text UrlPath

variable {text : String} {written rest : List Char} {scheme : String} {followed : Bool} {url : Url}

/-- The address has a host, and its path is made of these segments. -/
structure Hosted (url : Url) (segments : List String) : Prop where
  special : isSpecial url.scheme
  remote : url.scheme ≠ fileScheme
  host : url.host.isSome
  path : url.path = .rooted segments
  ne_nil : segments ≠ []
  slashless : Slashless segments

theorem host_of_authority {parts : Authority}
    (h : authority? scheme followed written = .ok (parts, rest)) : parts.host.isSome := by
  unfold authority? at h
  dsimp only at h
  split at h
  · cases h
  · split at h
    · cases h
    · split at h
      all_goals
        obtain ⟨host, -, h⟩ := bind_eq_ok_iff.mp h
        obtain ⟨⟨port, following⟩, -, h⟩ := bind_eq_ok_iff.mp h
        dsimp only at h
        split at h
        · cases h
        · cases h
          rfl

/-- The path after the host of a special scheme has a segment. -/
theorem path_after_host_eq_rooted (written : List Char) :
    ∃ segments, pathAfterHost true written = .rooted segments ∧ segments ≠ [] ∧
      Slashless segments := by
  unfold pathAfterHost
  split
  · exact ⟨[""], rfl, List.cons_ne_nil _ _, by simp [Slashless]⟩
  · split
    · exact of_text_eq_rooted true _
    · exact of_text_eq_rooted true _

theorem scheme_of_with_host (h : withHost scheme followed written = .ok url) :
    url.scheme = scheme := by
  unfold withHost at h
  obtain ⟨parts, -, h⟩ := bind_eq_ok_iff.mp h
  cases h
  rfl

theorem hosted_of_with_host (hspecial : isSpecial scheme) (hremote : scheme ≠ fileScheme)
    (h : withHost scheme followed written = .ok url) : ∃ segments, url.Hosted segments := by
  unfold withHost at h
  obtain ⟨⟨parts, rest⟩, hparts, h⟩ := bind_eq_ok_iff.mp h
  obtain ⟨segments, hpath, hne, hslashless⟩ :=
    path_after_host_eq_rooted (rest ++ written.dropWhile (!isSlash true ·))
  cases h
  refine ⟨segments, hspecial, hremote, host_of_authority hparts, ?_, hne, hslashless⟩
  rw [hspecial]
  exact hpath

theorem scheme_of_file (h : ofFile written = .ok url) : url.scheme = fileScheme := by
  unfold ofFile at h
  split at h
  · split at h
    · dsimp only at h
      split at h
      · cases h
        rfl
      · obtain ⟨host, -, h⟩ := bind_eq_ok_iff.mp h
        cases h
        rfl
    · cases h
      rfl
  · cases h
    rfl

/-- An address has the scheme under which it is read. -/
theorem scheme_of_parts (h : ofParts scheme followed written = .ok url) : url.scheme = scheme := by
  unfold ofParts at h
  split at h
  · next hfile => rw [scheme_of_file h, hfile]
  · split at h
    · exact scheme_of_with_host h
    · split at h
      · exact scheme_of_with_host h
      · cases h
        rfl
      · cases h
        rfl

theorem hosted_of_parts (hspecial : isSpecial scheme) (hremote : scheme ≠ fileScheme)
    (h : ofParts scheme followed written = .ok url) : ∃ segments, url.Hosted segments := by
  unfold ofParts at h
  rw [if_neg hremote, if_pos hspecial] at h
  exact hosted_of_with_host hspecial hremote h

/-- What is read under a scheme with a host is an address with a host. -/
theorem hosted_of_parse (h : parse text = .ok url) (hspecial : isSpecial url.scheme)
    (hremote : url.scheme ≠ fileScheme) : ∃ segments, url.Hosted segments := by
  rw [parse] at h
  split at h
  · cases h
  · dsimp only at h
    obtain ⟨parts, hparts, h⟩ := bind_eq_ok_iff.mp h
    cases h
    have hscheme := scheme_of_parts hparts
    obtain ⟨segments, hparts⟩ :=
      hosted_of_parts (hscheme ▸ hspecial) (hscheme ▸ hremote) hparts
    -- Query and fragment are no part of what is said here.
    exact ⟨segments, { hparts with }⟩

theorem hosted_of_web (h : parse text = .ok url)
    (hscheme : url.scheme = "http" ∨ url.scheme = "https") : ∃ segments, url.Hosted segments := by
  have hboth : isSpecial url.scheme ∧ url.scheme ≠ fileScheme := by
    rcases hscheme with hscheme | hscheme
    · rw [hscheme]
      decide
    · rw [hscheme]
      decide
  exact hosted_of_parse h hboth.1 hboth.2

end StatsBoard.Url
