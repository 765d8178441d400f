import Mathlib.Data.List.Forall2
import TokenEndpoint.Proofs.UrlTexts
import TokenEndpoint.Telemetry.Session
/-!
What a record keeps of the URL that it is given as its target. Of a URL with the parts of a `Target`, the
values and the fragment leave no mark, and a segment of the path with an at sign none but the placeholder;
the network location is kept as it stands. Main statements:

* `Record.setTarget_path_user_iff` -- the kept path has an at sign exactly if the network location has one;
* `Target.setTarget_alike` -- targets that differ in values, fragments and users leave the same record.
-/

namespace TokenEndpoint

namespace Record

/-! ## 1. The kept path -/

theorem at_not_mem_scrubSegment (segment : String) : '@' ∉ (scrubSegment segment).toList := by
  unfold scrubSegment
  split
  · decide
  · next h => simpa using h

theorem scrubSegment_of_at {segment : String} (h : '@' ∈ segment.toList) :
    scrubSegment segment = userPlaceholder := by
  rw [scrubSegment, if_pos (List.contains_iff_mem.mpr h)]

theorem intercalate_slash (front : List Char) (segments : List (List Char)) :
    List.intercalate ['/'] (front :: segments) = front ++ Url.writtenPath segments := by
  induction segments generalizing front with
  | nil => rw [List.intercalate_singleton, Url.writtenPath, List.flatMap_nil, List.append_nil]
  | cons segment segments ih =>
    rw [List.intercalate_cons_cons, ih, Url.writtenPath, Url.writtenPath, List.flatMap_cons,
      List.append_assoc]
    rfl

/-- The kept path is scheme and network location, and the scrubbed segments behind them. -/
theorem toList_scrubbedPath (url : Url) :
    (scrubbedPath url).toList = url.scheme.toList ++ ':' :: '/' :: '/' :: (url.netloc.toList ++
      Url.writtenPath (url.segments.map fun segment => (scrubSegment segment).toList)) := by
  have hslash : "/".toList = ['/'] := rfl
  rw [scrubbedPath, String.toList_intercalate, hslash, List.map_cons, List.map_map, intercalate_slash]
  simp [Function.comp_def]

/-- A URL is read as a target if it has a scheme and a network location. -/
theorem readTarget_eq_ok_iff {url : Option String} {parsed : Url} :
    readTarget url = .ok parsed ↔ ∃ text, url = some text ∧ Url.parse text = .ok parsed ∧
      parsed.scheme.isEmpty = false ∧ parsed.netloc.isEmpty = false := by
  constructor
  · intro h
    unfold readTarget at h
    dsimp only at h
    split at h
    · cases h
    · next hne =>
      split at h
      · cases h
      · next found hparse =>
        split at h
        · cases h
        · next hboth =>
          cases h
          rw [Bool.not_eq_true, Bool.or_eq_false_iff] at hboth
          cases url with
          | none => exact absurd rfl hne
          | some text => exact ⟨text, rfl, hparse, hboth⟩
  · rintro ⟨text, rfl, hparse, hscheme, hnetloc⟩
    have hne : text.isEmpty = false := by
      cases hempty : text.isEmpty with
      | false => rfl
      | true =>
        -- the empty text is a URL, but one without a scheme
        rw [String.isEmpty_iff.mp hempty] at hparse
        cases hparse
        cases hscheme
    unfold readTarget
    dsimp only [Option.getD_some]
    rw [hne, hparse]
    simp [hscheme, hnetloc]

/-- **The kept path has an at sign exactly if the network location of the URL has one**, that is, if it
names a user there: the network location is kept as it stands, and whatever else is kept has none. -/
theorem setTarget_path_user_iff {r changed : Record} {url : Option String}
    (h : r.setTarget url = .ok changed) :
    ∃ text scheme netloc behind path rear, url = some text ∧
      Url.Begins text.toList scheme netloc behind ∧ changed.path = some path ∧
      path.toList = scheme.map Char.toLower ++ ':' :: '/' :: '/' :: (netloc ++ rear) ∧
      '@' ∉ scheme.map Char.toLower ∧ '@' ∉ rear ∧ ('@' ∈ path.toList ↔ '@' ∈ netloc) := by
  obtain ⟨parsed, hread, rfl⟩ := map_eq_ok.mp h
  obtain ⟨text, rfl, hparse, hscheme, hnetloc⟩ := readTarget_eq_ok_iff.mp hread
  obtain ⟨scheme, netloc, behind, hbegins, rfl⟩ := Url.exists_begins hparse hscheme hnetloc
  have hat : '@' ∉ scheme.map Char.toLower := by
    intro hmem
    obtain ⟨c, hc, hlower⟩ := List.mem_map.mp hmem
    rw [Url.toLower_eq_iff (by decide)] at hlower
    subst hlower
    exact absurd (Url.isSchemeChar_of_isScheme hbegins.scheme hc) (by decide)
  have hrear : '@' ∉ Url.writtenPath ((Url.ofBehind (scheme.map Char.toLower) netloc behind).segments.map
      fun segment => (scrubSegment segment).toList) := by
    intro hmem
    obtain ⟨piece, hpiece, hin⟩ := List.mem_flatMap.mp hmem
    obtain ⟨segment, -, rfl⟩ := List.mem_map.mp hpiece
    rcases List.mem_cons.mp hin with hslash | hin
    · cases hslash
    · exact at_not_mem_scrubSegment segment hin
  have hpath := toList_scrubbedPath (Url.ofBehind (scheme.map Char.toLower) netloc behind)
  rw [show (Url.ofBehind (scheme.map Char.toLower) netloc behind).scheme.toList =
      scheme.map Char.toLower from String.toList_ofList,
    show (Url.ofBehind (scheme.map Char.toLower) netloc behind).netloc.toList = netloc from
      String.toList_ofList] at hpath
  refine ⟨text, scheme, netloc, behind, _, _, rfl, hbegins, rfl, hpath, hat, hrear, ?_⟩
  rw [hpath]
  have hmarks : '@' ≠ ':' ∧ '@' ≠ '/' := by decide
  simp only [List.mem_append, List.mem_cons, hat, hrear, hmarks, false_or, or_false]

/-- A user and a password in front of the host are kept; a user in the path is not. -/
theorem setTarget_path_user_iff_password :
    let url := "https://alice:secret@h/bob@example/token"
    ∃ changed, ({} : Record).setTarget (some url) = .ok changed ∧
      changed.path = some "https://alice:secret@h/<user>/token" ∧
      ∃ scheme netloc behind, Url.Begins url.toList scheme netloc behind ∧ '@' ∈ netloc := by
  intro url
  let changed : Record := { path := some "https://alice:secret@h/<user>/token" }
  have h : ({} : Record).setTarget (some url) = .ok changed := toOption_eq_some.mp (by decide)
  obtain ⟨text, scheme, netloc, behind, path, -, htext, hbegins, hpath, -, -, -, hat⟩ :=
    setTarget_path_user_iff h
  cases htext
  cases hpath
  exact ⟨changed, h, rfl, scheme, netloc, behind, hbegins, hat.mp (by decide)⟩

end Record

/-! ## 2. The parts of a target -/

/-- A URL by its parts: scheme and network location, the segments of its path, the names and values of
its query, and its fragment. -/
structure Target where
  scheme : List Char
  netloc : List Char
  segments : List (List Char)
  /-- Names with their values, in the order of the query. -/
  pairs : List (List Char × List Char)
  fragment : Option (List Char) := none
  scheme_fits : ':' ∉ scheme
  netloc_fits : ∀ c ∈ netloc, Url.isNetlocEnd c = false
  segments_fit : ∀ segment ∈ segments, ∀ c ∈ segment, Url.isNetlocEnd c = false ∧ c ≠ ';'
  pairs_given : pairs ≠ []
  names_fit : ∀ p ∈ pairs, ∀ c ∈ p.1, Url.isKept c = true ∧ c ≠ '=' ∧ c ≠ '&' ∧ c ≠ '#'
  values_fit : ∀ p ∈ pairs, ∀ c ∈ p.2, c ≠ '&' ∧ c ≠ '#'

namespace Target

def names (t : Target) : List (List Char) :=
  t.pairs.map (·.1)

def written (p : List Char × List Char) : List Char :=
  p.1 ++ '=' :: p.2

def query (t : Target) : List Char :=
  Text.joinWith ['&'] (t.pairs.map written)

/-- The path and what is behind it. -/
def behind (t : Target) : List Char :=
  Url.writtenPath t.segments ++ '?' :: t.query ++ match t.fragment with
    | none => []
    | some fragment => '#' :: fragment

def url (t : Target) : String :=
  String.ofList (t.scheme ++ ':' :: '/' :: '/' :: (t.netloc ++ t.behind))

/-- Two targets differ in nothing but the values, the fragment, and segments that both have an at sign. -/
structure Alike (a b : Target) : Prop where
  scheme : a.scheme = b.scheme
  netloc : a.netloc = b.netloc
  segments : List.Forall₂ (fun s t => s = t ∨ '@' ∈ s ∧ '@' ∈ t) a.segments b.segments
  names : a.names = b.names

/-! ## 3. Reading a target -/

/-- Scheme and network location are such that a URL can be read. -/
structure Readable (scheme netloc : List Char) : Prop where
  isScheme : Url.isScheme (Url.clean scheme) = true
  given : Url.kept netloc ≠ []
  brackets : Url.checkBrackets (Url.kept netloc) = .ok ()
  delimiters : Url.checkDelimiters (Url.kept netloc) = .ok ()

def read (t : Target) : Url :=
  Url.ofBehind ((Url.clean t.scheme).map Char.toLower) (Url.kept t.netloc) (Url.kept t.behind)

variable (t : Target)

theorem kept_written {p : List Char × List Char} (h : p ∈ t.pairs) :
    Url.kept (written p) = p.1 ++ '=' :: Url.kept p.2 := by
  rw [written, Url.kept_append, Url.kept_of_all fun c hc => (t.names_fit p h c hc).1,
    Url.kept_cons_of_kept (by decide)]

/-- What is kept of the pieces of the query. -/
def pieces : List (List Char) :=
  t.pairs.map fun p => p.1 ++ '=' :: Url.kept p.2

theorem kept_query : Url.kept t.query = Text.joinWith ['&'] t.pieces := by
  rw [query, Url.kept_joinWith (by decide), List.map_map, pieces]
  exact congrArg _ (List.map_congr_left fun p hp => t.kept_written hp)

theorem pieces_ne : t.pieces ≠ [] := by
  simpa [pieces] using t.pairs_given

/-- No piece is empty, none holds the separator, and its name stands before the first `=`. -/
theorem piece_fits {piece : List Char} (h : piece ∈ t.pieces) : piece ≠ [] ∧ '&' ∉ piece ∧ '#' ∉ piece := by
  obtain ⟨p, hp, rfl⟩ := List.mem_map.mp h
  have hname := t.names_fit p hp
  have hvalue {c : Char} (hc : c ∈ Url.kept p.2) := t.values_fit p hp c (Url.mem_kept_iff.mp hc).1
  refine ⟨by simp, ?_, ?_⟩
  · rw [List.mem_append, List.mem_cons, not_or, not_or]
    exact ⟨fun hc => (hname _ hc).2.2.1 rfl, by decide, fun hc => (hvalue hc).1 rfl⟩
  · rw [List.mem_append, List.mem_cons, not_or, not_or]
    exact ⟨fun hc => (hname _ hc).2.2.2 rfl, by decide, fun hc => (hvalue hc).2 rfl⟩

theorem names_pieces : t.pieces.map (fun piece => (Text.cut '=' piece).1) = t.names := by
  rw [pieces, List.map_map, names]
  refine List.map_congr_left fun p hp => ?_
  show (Text.cut '=' (p.1 ++ '=' :: Url.kept p.2)).1 = p.1
  rw [Text.cut_append fun hc => (t.names_fit p hp _ hc).2.1 rfl]

theorem path_kept_fits {c : Char} (h : c ∈ Url.writtenPath (t.segments.map Url.kept)) :
    c ≠ '?' ∧ c ≠ '#' ∧ c ≠ ';' := by
  obtain ⟨kept, hkept, hc⟩ := List.mem_flatMap.mp h
  obtain ⟨segment, hsegment, rfl⟩ := List.mem_map.mp hkept
  rcases List.mem_cons.mp hc with rfl | hc
  · decide
  · obtain ⟨hend, hsemicolon⟩ := t.segments_fit segment hsegment c (Url.mem_kept_iff.mp hc).1
    simp only [Url.isNetlocEnd, Bool.or_eq_false_iff, beq_eq_false_iff_ne] at hend
    exact ⟨hend.1.2, hend.2, hsemicolon⟩

/-- What is kept behind the network location. -/
theorem exists_kept_behind : ∃ rest, (∀ c ∈ rest.head?, c = '#') ∧
    Url.kept t.behind = Url.writtenPath (t.segments.map Url.kept) ++
      '?' :: Text.joinWith ['&'] t.pieces ++ rest := by
  have hbehind : Url.kept t.behind = Url.writtenPath (t.segments.map Url.kept) ++
      '?' :: Text.joinWith ['&'] t.pieces ++ Url.kept (match t.fragment with
        | none => []
        | some fragment => '#' :: fragment) := by
    rw [behind, Url.kept_append, Url.kept_append, Url.kept_writtenPath,
      Url.kept_cons_of_kept (by decide), kept_query]
  refine ⟨_, ?_, hbehind⟩
  intro c hc
  cases hfragment : t.fragment with
  | none => rw [hfragment] at hc; cases hc
  | some fragment =>
    rw [hfragment, Url.kept_cons_of_kept (by decide)] at hc
    exact (Option.some.inj hc).symm

/-- The URL that is read has the segments of the path and the pieces of the query, as far as they are
kept. -/
theorem read_parts : t.read.path = String.ofList (Url.writtenPath (t.segments.map Url.kept)) ∧
    t.read.query = String.ofList (Text.joinWith ['&'] t.pieces) := by
  obtain ⟨rest, hrest, hbehind⟩ := t.exists_kept_behind
  have hquery : '#' ∉ Text.joinWith ['&'] t.pieces := by
    have hall : (Text.joinWith ['&'] t.pieces).all (· != '#') = true :=
      Text.all_joinWith (by decide) fun piece hpiece => List.all_eq_true.mpr fun c hc =>
        bne_iff_ne.mpr fun heq => (t.piece_fits hpiece).2.2 (heq ▸ hc)
    intro hmem
    exact absurd rfl (bne_iff_ne.mp (List.all_eq_true.mp hall _ hmem))
  rw [read, hbehind]
  exact Url.ofBehind_of_parts _ _ (fun c hc => t.path_kept_fits hc) hquery hrest

theorem segments_read : t.read.segments =
    ((t.segments.map Url.kept).filter fun segment => !segment.isEmpty).map String.ofList := by
  rw [Url.segments, t.read_parts.1, String.toList_ofList, Url.splitOn_writtenPath]
  · rfl
  · intro kept hkept
    obtain ⟨segment, hsegment, rfl⟩ := List.mem_map.mp hkept
    exact Url.all_isPartChar_kept fun c hc => (t.segments_fit segment hsegment c hc).1

/-- The names that are kept are those of the query. -/
theorem queryNames_read : Record.queryNames t.read.query =
    some (String.ofList (Text.joinWith ['&'] t.names)) := by
  have hpieces : (Text.splitOn '&' (Text.joinWith ['&'] t.pieces)).filter (fun p => !p.isEmpty) =
      t.pieces := by
    rw [Text.splitOn_joinWith t.pieces_ne fun piece hpiece => (t.piece_fits hpiece).2.1,
      List.filter_eq_self]
    intro piece hpiece
    simpa using (t.piece_fits hpiece).1
  rw [Record.queryNames, t.read_parts.2, String.toList_ofList, hpieces, ← t.names_pieces]
  cases hne : t.pieces with
  | nil => exact absurd hne t.pieces_ne
  | cons piece rest => rfl

theorem query_read_isEmpty : t.read.query.isEmpty = false := by
  have hnames := t.queryNames_read
  cases hempty : t.read.query.isEmpty with
  | false => rfl
  | true =>
    rw [String.isEmpty_iff.mp hempty] at hnames
    cases hnames

theorem clean_url : Url.clean t.url.toList = Url.clean t.scheme ++
    ':' :: '/' :: '/' :: (Url.kept t.netloc ++ Url.kept t.behind) := by
  rw [url, String.toList_ofList, Url.clean_append_colon, Url.kept_cons_of_kept (by decide),
    Url.kept_cons_of_kept (by decide), Url.kept_append]

theorem colon_not_mem_clean : ':' ∉ Url.clean t.scheme := fun hmem =>
  t.scheme_fits ((List.dropWhile_suffix _).subset (List.mem_filter.mp hmem).1)

theorem begins_url (h : Url.isScheme (Url.clean t.scheme) = true) :
    Url.Begins t.url.toList (Url.clean t.scheme) (Url.kept t.netloc) (Url.kept t.behind) := by
  refine ⟨t.clean_url, t.colon_not_mem_clean, h, Url.all_isPartChar_kept t.netloc_fits, ?_⟩
  intro c hc
  obtain ⟨rest, -, hbehind⟩ := t.exists_kept_behind
  rw [hbehind] at hc
  cases hsegments : t.segments <;> rw [hsegments] at hc <;> cases hc <;> rfl

/-- A target is not read if what stands in front of its colon is no scheme. -/
theorem isScheme_of_readTarget {parsed : Url} (h : Record.readTarget (some t.url) = .ok parsed) :
    Url.isScheme (Url.clean t.scheme) = true := by
  obtain ⟨_, heq, hparse, hscheme, -⟩ := Record.readTarget_eq_ok_iff.mp h
  cases heq
  have hsplit := Url.splitScheme_append t.colon_not_mem_clean
    ('/' :: '/' :: (Url.kept t.netloc ++ Url.kept t.behind))
  cases his : Url.isScheme (Url.clean t.scheme) with
  | true => rfl
  | false =>
    rw [his, ← t.clean_url, if_neg Bool.false_ne_true] at hsplit
    obtain ⟨-, -, hurl⟩ := (Url.parseChars_eq_ok_iff (Prod.eta _).symm).mp hparse
    rw [hurl, hsplit] at hscheme
    cases hscheme

/-- **A target is read exactly if its scheme and its network location can be**, and then with its parts. -/
theorem readTarget_eq_ok_iff {parsed : Url} :
    Record.readTarget (some t.url) = .ok parsed ↔ Readable t.scheme t.netloc ∧ parsed = t.read := by
  constructor
  · intro h
    have his := t.isScheme_of_readTarget h
    obtain ⟨_, heq, hparse, -, hnetloc⟩ := Record.readTarget_eq_ok_iff.mp h
    cases heq
    obtain ⟨hbrackets, hdelimiters, rfl⟩ := (Url.parseChars_of_begins (t.begins_url his)).mp hparse
    exact ⟨⟨his, Url.ofList_isEmpty_iff.mp hnetloc, hbrackets, hdelimiters⟩, rfl⟩
  · rintro ⟨h, rfl⟩
    refine Record.readTarget_eq_ok_iff.mpr ⟨t.url, rfl, ?_, ?_, Url.ofList_isEmpty_iff.mpr h.given⟩
    · exact (Url.parseChars_of_begins (t.begins_url h.isScheme)).mpr ⟨h.brackets, h.delimiters, rfl⟩
    · exact Url.ofList_isEmpty_iff.mpr (Url.map_toLower_ne_nil h.isScheme)

/-- A target that can be read leaves its scrubbed path and the names of its query. -/
theorem setTarget_of_readable (h : Readable t.scheme t.netloc) (record : Record) :
    record.setTarget (some t.url) = .ok
      { record with
        path := some (Record.scrubbedPath t.read)
        queryParameters := some (String.ofList (Text.joinWith ['&'] t.names)) } := by
  rw [Record.setTarget, t.readTarget_eq_ok_iff.mpr ⟨h, rfl⟩, ← t.queryNames_read]
  show Except.ok { record with
    path := some (Record.scrubbedPath t.read)
    queryParameters := if t.read.query.isEmpty then record.queryParameters
      else Record.queryNames t.read.query } = _
  rw [t.query_read_isEmpty, if_neg Bool.false_ne_true]

theorem setTarget_of_not_readable (h : ¬ Readable t.scheme t.netloc) (record : Record) :
    ∃ fault, record.setTarget (some t.url) = .error fault := by
  cases hread : Record.readTarget (some t.url) with
  | ok parsed => exact absurd (t.readTarget_eq_ok_iff.mp hread).1 h
  | error fault => exact ⟨fault, by rw [Record.setTarget, hread]; rfl⟩

end Target

/-! ## 4. Targets that leave the same record -/

namespace TelemetrySession

variable {s : TelemetrySession} {i : Nat} {record : Record} {url : Option String}

theorem step_setTarget_of_ok (hrecord : s.records[i]? = some record) {changed : Record}
    (h : record.setTarget url = .ok changed) :
    s.step (.setTarget i url) = { session := s.setRecord i changed } := by
  rw [step, setTarget, hrecord]
  dsimp only
  rw [h]

/-- A target that is refused leaves the session as it was. -/
theorem step_setTarget_of_error (hrecord : s.records[i]? = some record) {fault : TargetFault}
    (h : record.setTarget url = .error fault) :
    s.step (.setTarget i url) = { session := s, failure := some (.target fault) } := by
  rw [step, setTarget, hrecord]
  dsimp only
  rw [h]

end TelemetrySession

namespace Target

/-- Segments that differ only where both have an at sign are alike once they are scrubbed. -/
theorem scrubbed_alike {xs ys : List (List Char)}
    (h : List.Forall₂ (fun s t => s = t ∨ '@' ∈ s ∧ '@' ∈ t) xs ys) :
    (((xs.map Url.kept).filter fun s => !s.isEmpty).map String.ofList).map Record.scrubSegment =
      (((ys.map Url.kept).filter fun s => !s.isEmpty).map String.ofList).map Record.scrubSegment := by
  have hscrubbed {s : List Char} (hs : '@' ∈ s) : (Url.kept s).isEmpty = false ∧
      Record.scrubSegment (String.ofList (Url.kept s)) = Record.userPlaceholder := by
    have hkept : '@' ∈ Url.kept s := Url.mem_kept_iff.mpr ⟨hs, by decide⟩
    refine ⟨?_, Record.scrubSegment_of_at (by rwa [String.toList_ofList])⟩
    rw [List.isEmpty_eq_false_iff]
    exact List.ne_nil_of_mem hkept
  induction h with
  | nil => rfl
  | @cons s t xs ys hst _ ih =>
    rcases hst with rfl | ⟨hs, ht⟩
    · rw [List.map_cons, List.map_cons, List.filter_cons, List.filter_cons]
      split
      · rw [List.map_cons, List.map_cons, List.map_cons, List.map_cons, ih]
      · exact ih
    · simp only [List.map_cons, List.filter_cons, (hscrubbed hs).1, (hscrubbed ht).1, Bool.not_false,
        if_true, (hscrubbed hs).2, (hscrubbed ht).2, ih]

variable {a b : Target}

theorem Alike.scrubbedPath_read (h : a.Alike b) :
    Record.scrubbedPath a.read = Record.scrubbedPath b.read := by
  have hscheme : a.read.scheme = b.read.scheme :=
    congrArg (fun s => String.ofList ((Url.clean s).map Char.toLower)) h.scheme
  have hnetloc : a.read.netloc = b.read.netloc :=
    congrArg (fun s => String.ofList (Url.kept s)) h.netloc
  rw [Record.scrubbedPath, Record.scrubbedPath, hscheme, hnetloc, segments_read, segments_read,
    scrubbed_alike h.segments]

/-- **Values, fragments and users leave no mark in a record.** Take two targets with the same scheme and
network location, the same names in their queries, and segments that differ only where both have an at
sign. Either neither can be kept, and the session is left as it was, or both leave the same path, and
the names of the query joined as they were. -/
theorem setTarget_alike (h : a.Alike b) {s : TelemetrySession} {i : Nat} {record : Record}
    (hrecord : s.records[i]? = some record) :
    (∀ t ∈ [a, b], ∃ failure,
      s.step (.setTarget i (some t.url)) = { session := s, failure := some failure }) ∨
    ∃ path, ∀ t ∈ [a, b], s.step (.setTarget i (some t.url)) =
      { session := s.setRecord i
          { record with
            path := some path
            queryParameters := some (String.ofList (Text.joinWith ['&'] a.names)) } } := by
  have hsame : ∀ t ∈ [a, b], t.scheme = a.scheme ∧ t.netloc = a.netloc ∧ t.names = a.names ∧
      Record.scrubbedPath t.read = Record.scrubbedPath a.read := by
    simp [h.scheme, h.netloc, h.names, h.scrubbedPath_read]
  by_cases hreadable : Readable a.scheme a.netloc
  · refine .inr ⟨Record.scrubbedPath a.read, fun t ht => ?_⟩
    obtain ⟨hscheme, hnetloc, hnames, hpath⟩ := hsame t ht
    rw [← hscheme, ← hnetloc] at hreadable
    rw [TelemetrySession.step_setTarget_of_ok hrecord (t.setTarget_of_readable hreadable record), hpath,
      hnames]
  · refine .inl fun t ht => ?_
    obtain ⟨hscheme, hnetloc, -⟩ := hsame t ht
    rw [← hscheme, ← hnetloc] at hreadable
    obtain ⟨fault, hfault⟩ := t.setTarget_of_not_readable hreadable record
    exact ⟨.target fault, TelemetrySession.step_setTarget_of_error hrecord hfault⟩

/-- Values with every other mark of a URL in them, a value without a name, and segments of two users. -/
theorem setTarget_alike_two_users :
    let a : Target :=
      { scheme := "https".toList, netloc := "h:8443".toList
        segments := ["alice@example".toList, [], "token".toList]
        pairs := [("slice".toList, "a=b?c/d@e".toList), ([], "%26".toList)]
        scheme_fits := by decide, netloc_fits := by simp [Url.isNetlocEnd]
        segments_fit := by simp [Url.isNetlocEnd], pairs_given := by decide
        names_fit := by simp [Url.isKept], values_fit := by simp }
    let b : Target :=
      { scheme := "https".toList, netloc := "h:8443".toList
        segments := ["b@o@b".toList, [], "token".toList]
        pairs := [("slice".toList, []), ([], "x\ty".toList)]
        fragment := some "top?z=1#2".toList
        scheme_fits := by decide, netloc_fits := by simp [Url.isNetlocEnd]
        segments_fit := by simp [Url.isNetlocEnd], pairs_given := by decide
        names_fit := by simp [Url.isKept], values_fit := by simp }
    let s : TelemetrySession := { records := [{ method := some "POST" }] }
    a.Alike b ∧ ∀ t ∈ [a, b], (s.step (.setTarget 0 (some t.url))).session.records =
      [{ method := some "POST", path := some "https://h:8443/<user>/token"
         queryParameters := some "slice&" }] := by
  intro a b s
  have halike : a.Alike b :=
    ⟨rfl, rfl, .cons (.inr (by decide)) (.cons (.inl rfl) (.cons (.inl rfl) .nil)), rfl⟩
  refine ⟨halike, ?_⟩
  have hstep : (s.step (.setTarget 0 (some a.url))).session.records =
      [{ method := some "POST", path := some "https://h:8443/<user>/token"
         queryParameters := some "slice&" }] := by decide
  rcases setTarget_alike halike (s := s) (i := 0) rfl with hrefused | ⟨path, hkept⟩
  · obtain ⟨failure, hfailure⟩ := hrefused a List.mem_cons_self
    rw [hfailure] at hstep
    have hleft : s.records = _ := hstep
    exact absurd hleft (by decide)
  · intro t ht
    rw [hkept a List.mem_cons_self] at hstep
    rw [hkept t ht]
    exact hstep

end Target

end TokenEndpoint
