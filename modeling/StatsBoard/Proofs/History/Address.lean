import StatsBoard.Certificate.Trust
import StatsBoard.Proofs.Metric
import StatsBoard.Proofs.Url.Hosted

/-!
# What an address asks for

The segments that a request adds to the path of an endpoint, and the slice in the query, tell which
history is asked for, as long as the name of the aggregate can be a segment
(`FetchRequest.url_names_history`). Names of points are left out of a path, and tabs and line ends
are dropped from it, so other names are mistaken for each other.
-/

namespace StatsBoard

open Text UrlPath

/-! ## The slice in the query -/

namespace TailRange

variable {query : Option String} {range other : Option TailRange}

/-- The query of a request for a slice, under an endpoint with a query of its own. -/
def queryUnder (query : Option String) : Option TailRange → Option String
  | none => query
  | some range =>
    some ("&".intercalate ((query.filter (· != "")).toList
      ++ range.pairs.map fun (name, value) => name ++ "=" ++ value))

/-- The characters of a query with its question mark. -/
def queryChars (query : Option String) : List Char :=
  ((query.map ("?" ++ ·)).getD "").toList

theorem query_chars_begins (query : Option String) :
    queryChars query = [] ∨ (queryChars query).head? = some '?' := by
  cases query with
  | none => exact Or.inl rfl
  | some query => exact Or.inr (by simp [queryChars])

/-- What stands before the bounds of a slice. -/
def front (query : Option String) : List Char :=
  '?' :: ((query.filter (· != "")).map (·.toList ++ ['&'])).getD [] ++ "start=".toList

theorem query_chars_some (query : Option String) (range : TailRange) :
    queryChars (queryUnder query (some range)) =
      front query ++ ((intNumeral range.start).toList
        ++ '&' :: ("end=".toList ++ (intNumeral range.stop).toList)) := by
  rw [queryChars, queryUnder, front]
  cases query.filter (· != "") with
  | none => simp [pairs, String.intercalate_cons_cons]
  | some kept => simp [pairs, String.intercalate_cons_cons]

theorem length_query_chars_lt_front (query : Option String) :
    (queryChars query).length < (front query).length := by
  rw [front]
  cases query with
  | none => decide
  | some query =>
      by_cases hquery : query = ""
      · subst hquery
        decide
      · have hkept : (some query).filter (· != "") = some query := by simp [hquery]
        rw [hkept]
        simp [queryChars]

/-- The slices of a request for everything and of one for a slice are told apart. -/
theorem query_chars_ne_some (range : TailRange) :
    queryChars query ≠ queryChars (queryUnder query (some range)) := by
  intro h
  have hlength := congrArg List.length h
  have hfront := length_query_chars_lt_front query
  rw [query_chars_some, List.length_append] at hlength
  omega

/-- The query tells which slice is asked for. -/
theorem query_chars_inj
    (h : queryChars (queryUnder query range) = queryChars (queryUnder query other)) :
    range = other := by
  match range, other with
  | none, none => rfl
  | none, some other => exact absurd h (query_chars_ne_some other)
  | some range, none => exact absurd h.symm (query_chars_ne_some range)
  | some range, some other =>
    have hampersand (i : Int) : '&' ∉ (intNumeral i).toList := fun hmem =>
      absurd (mem_int_numeral hmem) (by decide)
    rw [query_chars_some, query_chars_some, List.append_cancel_left_eq,
      List.append_cons_inj_of_notMem (hampersand _) (by simp [hampersand]),
      List.append_cancel_left_eq, String.toList_inj, String.toList_inj] at h
    obtain ⟨hstart, -, hstop⟩ := h
    cases range
    cases other
    rw [Option.some.injEq, TailRange.mk.injEq]
    exact ⟨int_numeral_inj hstart, int_numeral_inj hstop⟩

end TailRange

/-! ## The aggregate in the path -/

namespace UrlPath

variable {entity name other : String} {front before : List String}

/-- What is added to a path to name an aggregate. -/
def aggregateSegments (front : List String) (entity : String) : List String :=
  if entity = "." ∨ entity = ".." then ["watchers"]
  else if kept entity = ['.', '.'] then (if front = [] then [] else [""])
  else if kept entity = ['.'] then ["watchers", ""]
  else ["watchers", encoded entity]

theorem push_aggregate {scheme : String} (hspecial : Url.isSpecial scheme)
    (hfile : scheme ≠ Url.fileScheme) (front : List String) (entity : String) :
    ∃ segments, push scheme (rooted (front ++ ["watchers"])) entity = rooted segments ∧
      opened segments = front ++ aggregateSegments front entity := by
  have hopened : opened (front ++ ["watchers"]) = front ++ ["watchers"] :=
    opened_concat (by decide)
  have hlonger (last : String) :
      opened (front ++ ["watchers"] ++ [last]) = front ++ ["watchers", last] := by
    have hroot : front ++ ["watchers"] ++ [last] ≠ [""] := fun hroot => by
      simpa using congrArg List.length hroot
    rw [opened, if_neg hroot, List.append_assoc]
    rfl
  refine ⟨_, push_eq hspecial hfile, ?_⟩
  rw [aggregateSegments, hopened, List.dropLast_concat]
  split
  · exact hopened
  · split
    · -- Two points take back what was added before them.
      split
      · next hfront => rw [hfront]; rfl
      · next hfront => exact if_neg (by simpa using hfront)
    · split
      · exact hlonger ""
      · exact hlonger (encoded entity)

/-- A name that can be a segment is the one that is added, whatever was dropped of it. -/
theorem IsSegment.aggregate_segments (h : IsSegment entity) (hother : kept other = entity.toList) :
    aggregateSegments front other = ["watchers", encoded entity] := by
  have hhere : kept other ≠ ['.'] := fun hdots => h.1 (String.toList_inj.mp (hother ▸ hdots))
  have habove : kept other ≠ ['.', '.'] := fun hdots =>
    h.2.1 (String.toList_inj.mp (hother ▸ hdots))
  have hdots : ¬ (other = "." ∨ other = "..") := by
    rintro (rfl | rfl)
    · exact hhere rfl
    · exact habove rfl
  rw [aggregateSegments, if_neg hdots, if_neg habove, if_neg hhere, encoded, encoded, hother,
    h.kept_eq]

/-- The path names the aggregate exactly if its name can be a segment. -/
theorem exists_name_iff (hentity : entity ≠ "") :
    (∃ before name, front ++ aggregateSegments front entity = before ++ ["watchers", name] ∧
      ofUtf8? (percentDecode name.toList) = some entity) ↔ IsSegment entity := by
  constructor
  · rintro ⟨before, name, hsegments, hname⟩
    have hlast : (front ++ aggregateSegments front entity).getLast? = some name := by
      rw [hsegments]
      simp
    have hread (segment : String) (hsegment : encoded segment = name) :
        kept segment = entity.toList := by
      rw [← hsegment, decode_encoded] at hname
      rw [← Option.some.inj hname, String.toList_ofList]
    have hnonempty : name ≠ "" := by
      rintro rfl
      exact hentity (String.toList_eq_nil_iff.mp (hread "" rfl).symm)
    rw [aggregateSegments] at hlast
    split at hlast
    · next hdots =>
      have hencoded : encoded "watchers" = "watchers" := by decide
      have hwatchers := hread "watchers" (hencoded.trans (by simpa using hlast))
      rcases hdots with rfl | rfl
      · exact absurd hwatchers (by decide)
      · exact absurd hwatchers (by decide)
    · next hdots =>
      obtain ⟨hhere, habove⟩ := not_or.mp hdots
      split at hlast
      · split at hlast
        · next hfront => simp [hfront] at hlast
        · exact absurd (by simpa using hlast.symm) hnonempty
      · split at hlast
        · exact absurd (by simpa using hlast.symm) hnonempty
        · have hkept := hread entity (by simpa using hlast)
          exact ⟨hhere, habove, kept_eq_to_list_iff.mp hkept⟩
  · intro h
    refine ⟨front, encoded entity, by rw [h.aggregate_segments h.kept_eq], ?_⟩
    rw [decode_encoded, h.kept_eq, String.ofList_toList]

/-- A name that can be a segment is named alone, but for names of which something is dropped. -/
theorem aggregate_segments_eq_iff (h : IsSegment entity) (hentity : entity ≠ "") :
    aggregateSegments front other = aggregateSegments front entity ↔
      kept other = entity.toList := by
  rw [h.aggregate_segments h.kept_eq]
  constructor
  · intro heq
    rw [aggregateSegments] at heq
    split at heq
    · simp at heq
    · split at heq
      · split at heq
        · simp at heq
        · simp at heq
      · split at heq
        · have hencoded : encoded entity = "" := by simpa using heq
          have hempty : kept entity = kept "" := encoded_inj hencoded
          exact absurd (String.toList_eq_nil_iff.mp (h.kept_eq.symm.trans hempty)) hentity
        · rw [← h.kept_eq]
          exact encoded_inj (by simpa using heq)
  · exact h.aggregate_segments

end UrlPath

theorem Metric.stands_name (metric : Metric) : Stands metric.name := by
  cases metric <;> decide

/-! ## Endpoints -/

namespace Url

variable {text : String} {trust : Option TrustFile} {url : Url}

/-- An endpoint is an address whose path is a list of segments. -/
theorem parse_endpoint_eq_ok_iff :
    parseEndpoint text = .ok url ↔ parse text = .ok url ∧ url.path.isRooted := by
  rw [parseEndpoint]
  split
  · next hparse => simp [hparse]
  · next parsed hparse =>
    rw [hparse, Except.ok.injEq]
    split
    · next hrooted =>
      rw [Except.ok.injEq]
      exact ⟨fun heq => ⟨heq, heq ▸ hrooted⟩, And.left⟩
    · next hrootless => exact ⟨nofun, fun ⟨heq, hrooted⟩ => absurd (heq ▸ hrooted) hrootless⟩

/-- Histories can be asked for under an endpoint if what is to be trusted can be read. -/
theorem open_endpoint_eq_ok_iff : openEndpoint text trust = .ok url ↔
    parseEndpoint text = .ok url ∧ ∀ file ∈ trust, file.forRequests = .ok () := by
  rw [openEndpoint, bind_eq_ok_iff]
  cases trust with
  | none => simp
  | some file =>
      cases hfile : file.forRequests with
      | error failure => simp [hfile]
      | ok => simp [hfile]

end Url

namespace FetchRequest

variable {endpoint : Url} {request other : FetchRequest} {segments front : List String}

theorem url_eq (endpoint : Url) (request : FetchRequest) : request.url endpoint = { endpoint with
    path := (endpoint.appendSegments
      ["watchers", request.entity, "stats", request.metric.name]).path
    query := TailRange.queryUnder endpoint.query request.range } := by
  rw [url]
  cases request.range with
  | none => rfl
  | some range => rfl

/-- What is added to the path of an endpoint. -/
def segmentsUnder (front : List String) (request : FetchRequest) : List String :=
  aggregateSegments front request.entity ++ ["stats", request.metric.name]

/-- The path of an address: that of the endpoint, and then the segments of the request. -/
theorem path_url (h : endpoint.Hosted segments) (request : FetchRequest) :
    (request.url endpoint).path =
      rooted (stem segments ++ request.segmentsUnder (stem segments)) := by
  obtain ⟨trimmed, htrimmed, hstem⟩ := trim_empty_eq_rooted segments
  obtain ⟨named, hnamed, hopened⟩ :=
    push_aggregate h.special h.remote (stem segments) request.entity
  have hwatchers : Stands "watchers" := by decide
  have hstats : Stands "stats" := by decide
  rw [url_eq, Url.appendSegments, h.path, htrimmed]
  simp only [List.foldl_cons, List.foldl_nil]
  rw [hwatchers.push h.special h.remote, hstem, hnamed, hstats.push h.special h.remote, hopened,
    request.metric.stands_name.push h.special h.remote, opened_concat (by decide), segmentsUnder,
    List.append_assoc, List.append_assoc]
  rfl

/-- Everything but the segments of the request and the slice depends on the endpoint alone. -/
theorem to_list_text_url (h : endpoint.Hosted segments) (request : FetchRequest) :
    (request.url endpoint).text.toList =
      (endpoint.scheme ++ ":" ++ endpoint.authority).toList ++ chars (stem segments)
        ++ (chars (request.segmentsUnder (stem segments))
          ++ TailRange.queryChars (TailRange.queryUnder endpoint.query request.range))
        ++ ((endpoint.fragment.map ("#" ++ ·)).getD "").toList := by
  have hauthority : (request.url endpoint).authority = endpoint.authority := by
    obtain ⟨host, hhost⟩ := Option.isSome_iff_exists.mp h.host
    rw [url_eq, Url.authority, Url.authority, hhost]
    rfl
  rw [Url.text, hauthority, path_url h, url_eq]
  simp only [String.toList_append, to_list_text, chars_append, TailRange.queryChars,
    List.append_assoc]

/-- Whatever is added to a path to name a history was encoded. -/
theorem exists_encoded {segment : String} (h : segment ∈ request.segmentsUnder front) :
    ∃ name, encoded name = segment := by
  have hwatchers : encoded "watchers" = "watchers" := by decide
  have hstats : encoded "stats" = "stats" := by decide
  rcases List.mem_append.mp h with h | h
  · rw [aggregateSegments] at h
    split at h
    · exact ⟨"watchers", hwatchers.trans (List.mem_singleton.mp h).symm⟩
    · split at h
      · split at h
        · cases h
        · exact ⟨"", (List.mem_singleton.mp h).symm⟩
      · split at h
        · rcases List.mem_cons.mp h with rfl | h
          · exact ⟨"watchers", hwatchers⟩
          · exact ⟨"", (List.mem_singleton.mp h).symm⟩
        · rcases List.mem_cons.mp h with rfl | h
          · exact ⟨"watchers", hwatchers⟩
          · exact ⟨request.entity, (List.mem_singleton.mp h).symm⟩
  · rcases List.mem_cons.mp h with rfl | h
    · exact ⟨"stats", hstats⟩
    · rw [List.mem_singleton.mp h]
      exact ⟨request.metric.name, request.metric.stands_name.1⟩

theorem slashless_segments_under : Slashless (request.segmentsUnder front) := by
  intro segment hsegment
  obtain ⟨name, rfl⟩ := exists_encoded hsegment
  exact not_mem_encoded (by decide) (by decide) name

theorem question_mark_not_mem_chars : '?' ∉ chars (request.segmentsUnder front) := by
  rw [chars, List.mem_flatMap]
  rintro ⟨segment, hsegment, hmem⟩
  obtain ⟨name, rfl⟩ := exists_encoded hsegment
  rcases List.mem_cons.mp hmem with hslash | hmem
  · cases hslash
  · exact not_mem_encoded (by decide) (by decide) name hmem

/-- The path begins with what stands before the last slash of the endpoint's path, and with that
slash unless the endpoint's path is two slashes. -/
theorem path_url_begins (h : endpoint.Hosted segments) (request : FetchRequest) :
    ∃ before last, endpoint.path.text.toList = before ++ '/' :: last ∧ '/' ∉ last ∧
      before <+: (request.url endpoint).path.text.toList ∧
      (endpoint.path.text ≠ "//" →
        before ++ ['/'] <+: (request.url endpoint).path.text.toList) := by
  obtain ⟨front, last, rfl⟩ := (List.eq_nil_or_concat' segments).resolve_left h.ne_nil
  have hothers : request.segmentsUnder (stem (front ++ [last])) ≠ [] := by simp [segmentsUnder]
  obtain ⟨hbefore, hslash⟩ := prefix_chars_stem_append hothers
  rw [path_url h, h.path, to_list_text, to_list_text]
  refine ⟨chars front, last.toList, by rw [chars_append, chars_singleton], ?_, hbefore,
    fun hpath => hslash fun hroot => hpath ?_⟩
  · exact h.slashless last (List.mem_append_right _ (List.mem_singleton_self last))
  · rw [hroot]
    rfl

/-- The path ends in the segments of a history exactly if the aggregate's name can be one. -/
theorem path_url_ends_iff (h : endpoint.Hosted segments) (hentity : request.entity ≠ "") :
    (∃ before name,
        (request.url endpoint).path =
          .rooted (before ++ ["watchers", name, "stats", request.metric.name]) ∧
        ofUtf8? (percentDecode name.toList) = some request.entity) ↔
      IsSegment request.entity := by
  have hend (before : List String) (name : String) : (request.url endpoint).path =
        .rooted (before ++ ["watchers", name, "stats", request.metric.name]) ↔
      stem segments ++ aggregateSegments (stem segments) request.entity =
        before ++ ["watchers", name] := by
    have hcut : before ++ ["watchers", name, "stats", request.metric.name] =
        before ++ ["watchers", name] ++ ["stats", request.metric.name] := by simp
    rw [path_url h, rooted.injEq, segmentsUnder, hcut, ← List.append_assoc,
      List.append_cancel_right_eq]
  simp only [hend]
  exact exists_name_iff hentity

/-- Two requests have the same address exactly if the aggregates are named alike and all else is
the same. -/
theorem text_url_eq_iff (h : endpoint.Hosted segments) :
    (other.url endpoint).text = (request.url endpoint).text ↔
      aggregateSegments (stem segments) other.entity =
          aggregateSegments (stem segments) request.entity ∧
        other.metric = request.metric ∧ other.range = request.range := by
  rw [← String.toList_inj, to_list_text_url h, to_list_text_url h]
  constructor
  · intro htext
    rw [List.append_cancel_right_eq, List.append_cancel_left_eq] at htext
    obtain ⟨hchars, hquery⟩ := append_inj_of_not_mem question_mark_not_mem_chars
      question_mark_not_mem_chars (TailRange.query_chars_begins _) (TailRange.query_chars_begins _)
      htext
    have hsegments := chars_inj slashless_segments_under slashless_segments_under hchars
    obtain ⟨hentity, hmetric⟩ := List.append_inj' hsegments rfl
    have hname : other.metric.name = request.metric.name := by simpa using hmetric
    exact ⟨hentity, Metric.name_inj hname, TailRange.query_chars_inj hquery⟩
  · rintro ⟨hentity, hmetric, hrange⟩
    rw [segmentsUnder, segmentsUnder, hentity, hmetric, hrange]

/-- The address of a request for a history: its path begins like that of the endpoint and ends in
the four segments of the history exactly if the name of the aggregate can be a segment of a path.
Then only requests for the same slice of the same metric have that address, and the names of their
aggregates differ at most in what is dropped of them. -/
theorem url_names_history {text : String} {trust : Option TrustFile} (request : FetchRequest)
    (h : Url.openEndpoint text trust = .ok endpoint)
    (hscheme : endpoint.scheme = "http" ∨ endpoint.scheme = "https")
    (hentity : request.entity ≠ "") :
    (∃ before last, endpoint.path.text.toList = before ++ '/' :: last ∧ '/' ∉ last ∧
      before <+: (request.url endpoint).path.text.toList ∧
      (endpoint.path.text ≠ "//" →
        before ++ ['/'] <+: (request.url endpoint).path.text.toList)) ∧
    ((∃ before name,
        (request.url endpoint).path =
          .rooted (before ++ ["watchers", name, "stats", request.metric.name]) ∧
        ofUtf8? (percentDecode name.toList) = some request.entity) ↔
      IsSegment request.entity) ∧
    (IsSegment request.entity → ∀ other : FetchRequest,
      ((other.url endpoint).text = (request.url endpoint).text ↔
        kept other.entity = request.entity.toList ∧ other.metric = request.metric ∧
          other.range = request.range) ∧
      (IsSegment other.entity → (other.url endpoint).text = (request.url endpoint).text →
        other = request)) := by
  obtain ⟨hparse, -⟩ := Url.parse_endpoint_eq_ok_iff.mp (Url.open_endpoint_eq_ok_iff.mp h).1
  obtain ⟨segments, hhosted⟩ := Url.hosted_of_web hparse hscheme
  refine ⟨path_url_begins hhosted request, path_url_ends_iff hhosted hentity,
    fun hname other => ?_⟩
  have hsame : (other.url endpoint).text = (request.url endpoint).text ↔
      kept other.entity = request.entity.toList ∧ other.metric = request.metric ∧
        other.range = request.range := by
    rw [text_url_eq_iff hhosted, aggregate_segments_eq_iff hname hentity]
  refine ⟨hsame, fun hother htext => ?_⟩
  obtain ⟨hkept, hmetric, hrange⟩ := hsame.mp htext
  rw [hother.kept_eq, String.toList_inj] at hkept
  cases request
  cases other
  rw [FetchRequest.mk.injEq]
  exact ⟨hkept, hmetric, hrange⟩

/-- Blanks and slashes in a name are encoded, and no other name is written like that. -/
theorem url_names_history_escaped :
    ∃ endpoint, Url.openEndpoint "http://host" none = .ok endpoint ∧
      (url endpoint ⟨"a b/c", .cpu, none⟩).text = "http://host/watchers/a%20b%2Fc/stats/cpu" ∧
      ∀ other : FetchRequest, IsSegment other.entity →
        (other.url endpoint).text = "http://host/watchers/a%20b%2Fc/stats/cpu" →
          other = ⟨"a b/c", .cpu, none⟩ := by
  have hendpoint : Url.openEndpoint "http://host" none =
      .ok { scheme := "http", host := some (.domain "host"), path := .rooted [""] } := by
    decide +kernel
  obtain ⟨-, -, hsame⟩ :=
    url_names_history ⟨"a b/c", .cpu, none⟩ hendpoint (by decide) (by decide)
  refine ⟨_, hendpoint, by decide +kernel, fun other hother htext => ?_⟩
  exact (hsame (by decide) other).2 hother (htext.trans (by decide +kernel))

/-- A tab in a name is dropped, so that two aggregates have one address. -/
theorem address_of_two_aggregates :
    ∃ endpoint, Url.openEndpoint "http://host" none = .ok endpoint ∧ endpoint.scheme = "http" ∧
      (⟨"a\tb", .cpu, none⟩ : FetchRequest) ≠ ⟨"ab", .cpu, none⟩ ∧
      (url endpoint ⟨"a\tb", .cpu, none⟩).text = (url endpoint ⟨"ab", .cpu, none⟩).text := by
  refine ⟨{ scheme := "http", host := some (.domain "host"), path := .rooted [""] }, ?_, ?_⟩
  · decide +kernel
  · decide +kernel

end FetchRequest

end StatsBoard
