import TokenEndpoint.Proofs.Blanks
import TokenEndpoint.Proofs.Parameters
import TokenEndpoint.Proofs.Records
import TokenEndpoint.Proofs.UrlReading
/-!
Authorities that are read from a URL. The canonical URL of an authority is written from the lowered
network location and from segments of the URL's path (`Shape`), and is read again for the host, for the
endpoint of a request and for the target of a record. Main statements:

* `ofUrl_usable` -- these readings agree, and a request can be built;
* `ofUrl_canonicalUrl_iff` -- when an authority is what is read from its own canonical URL.
-/

namespace TokenEndpoint.Authority

open Url (NetlocFits isPartChar written writtenPath written_concat)

/-! ## 1. Shapes -/

/-- What the segments of a path make of the host in front of them. -/
inductive Shape (host : String) (endpoint : Option String) : List String → Authority → Prop
  | adfs {first : String} {rest : List String} (hfirst : Text.lower first = adfsSegment) :
      Shape host endpoint (first :: rest)
        { canonicalUrl := "https://" ++ host ++ "/" ++ adfsSegment, kind := .adfs
          tokenEndpoint := endpoint }
  | policyInPath {first tenant policy : String} {rest : List String}
      (hfirst : Text.lower first = policySegment) :
      Shape host endpoint (first :: tenant :: policy :: rest)
        (ofPolicy ("https://" ++ host ++ "/" ++ policySegment) tenant policy endpoint)
  | policyOnHost {tenant policy : String} {rest : List String}
      (hadfs : Text.lower tenant ≠ adfsSegment) (hpolicy : Text.lower tenant ≠ policySegment)
      (hhost : host.endsWith policyHostSuffix = true) :
      Shape host endpoint (tenant :: policy :: rest)
        (ofPolicy ("https://" ++ host) tenant policy endpoint)
  | tenant {tenant : String} {rest : List String} (hadfs : Text.lower tenant ≠ adfsSegment)
      (hpolicy : Text.lower tenant ≠ policySegment)
      (hhost : ¬ host.endsWith policyHostSuffix = true) :
      Shape host endpoint (tenant :: rest)
        { canonicalUrl := "https://" ++ host ++ "/" ++ tenant, tenant := some tenant
          tokenEndpoint := endpoint }

variable {url host : String} {segments : List String} {endpoint : Option String} {a : Authority}

theorem ofSegments_eq_ok_iff :
    ofSegments url host segments endpoint = .ok a ↔ Shape host endpoint segments a := by
  constructor
  · intro h
    unfold ofSegments at h
    dsimp only at h
    split at h
    · cases h
    split at h
    · next hadfs => cases h; exact .adfs hadfs
    next hadfs =>
    split at h
    · next hpolicy =>
      split at h
      · cases h; exact .policyInPath hpolicy
      · cases h
    next hpolicy =>
    split at h
    · next hhost =>
      split at h
      · cases h; exact .policyOnHost hadfs hpolicy hhost
      · cases h
    · next hhost => cases h; exact .tenant hadfs hpolicy hhost
  · have hne : policySegment ≠ adfsSegment := by decide
    intro h
    cases h with
    | adfs hfirst => simp [ofSegments, hfirst]
    | policyInPath hfirst => simp [ofSegments, hfirst, hne]
    | policyOnHost hadfs hpolicy hhost => simp [ofSegments, hadfs, hpolicy, hhost]
    | tenant hadfs hpolicy hhost => simp [ofSegments, hadfs, hpolicy, hhost]

theorem ofUrl_eq_ok_iff :
    ofUrl url endpoint = .ok a ↔ url.isEmpty = false ∧ ∃ parsed,
      Url.parse (Text.trim url) = .ok parsed ∧ parsed.scheme = "https" ∧
        parsed.netloc.isEmpty = false ∧ Shape parsed.host endpoint parsed.segments a := by
  unfold ofUrl
  split
  · next hempty => simp [hempty]
  next hempty =>
  cases Url.parse (Text.trim url) with
  | error fault => simp
  | ok parsed =>
    dsimp only
    split
    · next hnot =>
      refine ⟨fun h => (by cases h), ?_⟩
      rintro ⟨-, found, heq, hscheme, hnetloc, -⟩
      cases heq
      rw [hscheme, hnetloc] at hnot
      simp at hnot
    · next hhttps =>
      rw [not_or, not_ne_iff, Bool.not_eq_true] at hhttps
      rw [mapError_eq_ok, ofSegments_eq_ok_iff]
      constructor
      · exact fun h => ⟨by simpa using hempty, parsed, rfl, hhttps.1, hhttps.2, h⟩
      · rintro ⟨-, found, heq, -, -, h⟩
        cases heq
        exact h

/-- A policy is what only partitioned authorities have, and only ADFS has no tenant. -/
theorem Shape.kind_iff (h : Shape host endpoint segments a) :
    (a.variant.policyTag ≠ none ↔ a.kind = .b2c) ∧ (a.tenant = none ↔ a.kind = .adfs) := by
  cases h <;> simp [ofPolicy, IssuerVariant.policyTag]

/-- Where a policy has been read: behind the segment for policies and a tenant, or behind a tenant. -/
theorem Shape.policy_mem (h : Shape host endpoint segments a) {policy : String}
    (hpolicy : a.variant = .policyPartitioned policy) :
    (∃ first tenant rest, segments = first :: tenant :: policy :: rest ∧
      Text.lower first = policySegment) ∨
      ∃ tenant rest, segments = tenant :: policy :: rest ∧ Text.lower tenant ≠ policySegment := by
  cases h with
  | adfs hfirst => cases hpolicy
  | policyInPath hfirst => cases hpolicy; exact .inl ⟨_, _, _, rfl, hfirst⟩
  | policyOnHost hadfs hne hhost => cases hpolicy; exact .inr ⟨_, _, rfl, hne⟩
  | tenant hadfs hne hhost => cases hpolicy

/-- Where the tenant of an authority without a policy has been read. -/
theorem Shape.tenant_mem (h : Shape host endpoint segments a) (hkind : a.kind = .aad) :
    ∃ tenant rest, segments = tenant :: rest ∧ a.tenant = some tenant := by
  cases h with
  | tenant hadfs hne hhost => exact ⟨_, _, rfl, rfl⟩
  | _ => cases hkind

/-! ## 2. The canonical URL -/

/-- A text that a canonical URL may hold as a segment. -/
def IsSegment (segment : String) : Prop :=
  segment.toList ≠ [] ∧ segment.toList.all isPartChar = true

/-- The canonical URL of an authority is written from a host and from segments. -/
structure WrittenAs (a : Authority) (host : String) (front : List String) (last : String) : Prop where
  url : a.canonicalUrl.toList = written host.toList (front.map String.toList ++ [last.toList])
  segments : ∀ segment ∈ front ++ [last], IsSegment segment

theorem WrittenAs.isSegment_of_mem {front : List String} {last : String}
    (h : a.WrittenAs host front last) {segment : String} (hmem : segment ∈ front) :
    IsSegment segment :=
  h.segments segment (List.mem_append_left _ hmem)

theorem WrittenAs.isSegment_last {front : List String} {last : String}
    (h : a.WrittenAs host front last) : IsSegment last :=
  h.segments last (List.mem_append_right _ List.mem_cons_self)

/-- Of what may stand behind `front` at the end of a path only `last` gives the authority. -/
def EndsIn (a : Authority) (host : String) (endpoint : Option String) (front : List String)
    (last : String) : Prop :=
  ∀ rear : List String, rear.length ≤ 1 → Shape host endpoint (front ++ rear) a → rear = [last]

theorem eq_singleton_of_length {α : Type} {x : α} {xs : List α} (h : (x :: xs).length ≤ 1) :
    x :: xs = [x] := by
  have hxs : xs = [] := List.eq_nil_of_length_eq_zero (by simpa using h)
  rw [hxs]

/-- The canonical URL is written from segments of the path, or from the fixed one, and these give the
same authority again. -/
theorem Shape.exists_written (h : Shape host endpoint segments a)
    (hsegments : ∀ segment ∈ segments, IsSegment segment) :
    ∃ front last, a.WrittenAs host front last ∧ Shape host endpoint (front ++ [last]) a ∧
      (last = adfsSegment ∨ a.EndsIn host endpoint front last) := by
  have hadfsSegment : IsSegment adfsSegment := by
    constructor <;> decide
  have hpolicySegment : IsSegment policySegment := by
    constructor <;> decide
  cases h with
  | adfs hfirst =>
    refine ⟨[], adfsSegment, ⟨?_, by simpa using hadfsSegment⟩, .adfs (by decide), .inl rfl⟩
    simp [String.toList_append, written, writtenPath]
  | @policyInPath first tenant policy rest hfirst =>
    refine ⟨[policySegment, tenant], policy, ⟨?_, ?_⟩, .policyInPath (by decide), .inr ?_⟩
    · simp [ofPolicy, String.toList_append, written, writtenPath]
    · simp [hpolicySegment, hsegments]
    · intro rear hlength hagain
      rcases hagain.policy_mem rfl with ⟨_, _, _, heq, -⟩ | ⟨_, _, heq, hne⟩
      · cases heq
        exact eq_singleton_of_length hlength
      · cases heq
        exact absurd (by decide) hne
  | @policyOnHost tenant policy rest hadfs hpolicy hhost =>
    refine ⟨[tenant], policy, ⟨?_, ?_⟩, .policyOnHost hadfs hpolicy hhost, .inr ?_⟩
    · simp [ofPolicy, String.toList_append, written, writtenPath]
    · simp [hsegments]
    · intro rear hlength hagain
      rcases hagain.policy_mem rfl with ⟨_, _, _, heq, hfirst⟩ | ⟨_, _, heq, -⟩
      · cases heq
        exact absurd hfirst hpolicy
      · cases heq
        exact eq_singleton_of_length hlength
  | @tenant tenant rest hadfs hpolicy hhost =>
    refine ⟨[], tenant, ⟨?_, ?_⟩, .tenant hadfs hpolicy hhost, .inr ?_⟩
    · simp [String.toList_append, written, writtenPath]
    · simp [hsegments]
    · intro rear hlength hagain
      obtain ⟨_, _, heq, htenant⟩ := hagain.tenant_mem rfl
      cases heq
      cases htenant
      exact eq_singleton_of_length hlength

/-- A text that is written from a fitting host and from segments is read as written, but for the
parameters of the last segment: where nothing stands in front of them there is no last segment. -/
theorem parse_of_written {text : String} {front : List String} {last : List Char}
    (htext : text.toList = written host.toList (front.map String.toList ++ [last]))
    (hhost : NetlocFits host.toList) (hfront : ∀ segment ∈ front, IsSegment segment)
    (hlast : last.all isPartChar = true) :
    ∃ parsed, Url.parse text = .ok parsed ∧ parsed.scheme = "https" ∧ parsed.netloc = host ∧
      parsed.segments = front ++ if (Text.cut ';' last).1.isEmpty then [] else
        [String.ofList (Text.cut ';' last).1] := by
  have hall : ∀ segment ∈ front.map String.toList ++ [last], segment.all isPartChar = true := by
    intro segment hmem
    rcases List.mem_append.mp hmem with hmem | hmem
    · obtain ⟨kept, hkept, rfl⟩ := List.mem_map.mp hmem
      exact (hfront kept hkept).2
    · rwa [List.mem_singleton.mp hmem]
  have hfilter : (front.map String.toList).filter (fun s => !s.isEmpty) = front.map String.toList := by
    refine List.filter_eq_self.mpr fun segment hmem => ?_
    obtain ⟨kept, hkept, rfl⟩ := List.mem_map.mp hmem
    simpa using (hfront kept hkept).1
  have hback : (front.map String.toList).map String.ofList = front := by
    rw [List.map_map, show String.ofList ∘ String.toList = id from funext fun _ =>
      String.ofList_toList, List.map_id]
  obtain ⟨parsed, hparsed, hscheme, hnetloc, hsegments⟩ := Url.parseChars_written hhost hall
  refine ⟨parsed, by rw [Url.parse, htext, hparsed], hscheme, ?_, ?_⟩
  · rw [hnetloc, String.ofList_toList]
  · rw [hsegments, List.filter_append, hfilter, List.map_append, hback]
    cases (Text.cut ';' last).1 <;> rfl

/-- What is read from a URL: the canonical URL is written from the lowered host, and from segments that
give the same authority. -/
theorem exists_written_of_ofUrl (h : ofUrl url endpoint = .ok a) :
    ∃ parsed front last, Url.parse (Text.trim url) = .ok parsed ∧ parsed.host.isEmpty = false ∧
      a.WrittenAs parsed.host front last ∧ Shape parsed.host endpoint (front ++ [last]) a ∧
        (last = adfsSegment ∨ a.EndsIn parsed.host endpoint front last) := by
  obtain ⟨-, parsed, hparsed, -, hnetloc, hshape⟩ := ofUrl_eq_ok_iff.mp h
  obtain ⟨front, last, hwritten, hagain⟩ :=
    hshape.exists_written (Url.fits_of_parseChars hparsed).2
  exact ⟨parsed, front, last, hparsed, by rw [Url.host_isEmpty, hnetloc], hwritten, hagain⟩

/-! ## 3. Readings of the canonical URL -/

theorem Shape.tokenEndpoint_eq (h : Shape host endpoint segments a) : a.tokenEndpoint = endpoint := by
  cases h <;> rfl

theorem exists_endpointSuffix (kind : AuthorityKind) :
    ∃ front : List String, (∀ segment ∈ front, IsSegment segment) ∧
      kind.endpointSuffix.toList = writtenPath (front.map String.toList ++ ["token".toList]) := by
  have hsegments : ∀ segment ∈ ["oauth2", "v2.0"], IsSegment segment := by
    intro segment hmem
    rcases List.mem_cons.mp hmem with rfl | hmem
    · constructor <;> decide
    · cases List.mem_singleton.mp hmem
      constructor <;> decide
  cases kind with
  | adfs =>
    refine ⟨["oauth2"], fun segment hmem => hsegments segment ?_, by decide⟩
    exact List.mem_cons.mpr (.inl (List.mem_singleton.mp hmem))
  | aad => exact ⟨["oauth2", "v2.0"], hsegments, by decide⟩
  | b2c => exact ⟨["oauth2", "v2.0"], hsegments, by decide⟩

section Readings

variable {front : List String} {last : String}

theorem WrittenAs.host_eq (h : a.WrittenAs host front last) (hhost : NetlocFits host.toList) :
    a.host = .ok (Text.lower host) := by
  obtain ⟨parsed, hparsed, -, hnetloc, -⟩ := parse_of_written h.url hhost
    (fun _ hmem => h.isSegment_of_mem hmem) h.isSegment_last.2
  rw [Authority.host, hparsed]
  show Except.ok (Text.lower parsed.netloc) = _
  rw [hnetloc]

/-- The suffix is written behind the canonical URL as segments of its own. -/
theorem WrittenAs.exists_endpoint (h : a.WrittenAs host front last) :
    ∃ whole : List String, (∀ segment ∈ whole, IsSegment segment) ∧
      (a.canonicalUrl ++ a.kind.endpointSuffix).toList =
        written host.toList (whole.map String.toList ++ ["token".toList]) := by
  obtain ⟨rear, hrear, hsuffix⟩ := exists_endpointSuffix a.kind
  refine ⟨(front ++ [last]) ++ rear, fun segment hmem => ?_, ?_⟩
  · rcases List.mem_append.mp hmem with hmem | hmem
    · exact h.segments segment hmem
    · exact hrear segment hmem
  · rw [String.toList_append, h.url, hsuffix]
    simp [written, writtenPath]

theorem WrittenAs.checkEndpoint_eq (h : a.WrittenAs host front last)
    (hhost : NetlocFits host.toList) (hne : host.isEmpty = false) :
    checkEndpoint (some (a.canonicalUrl ++ a.kind.endpointSuffix)) =
      .ok (a.canonicalUrl ++ a.kind.endpointSuffix) := by
  obtain ⟨whole, hwhole, htext⟩ := h.exists_endpoint
  obtain ⟨parsed, hparsed, hscheme, hnetloc, -⟩ := parse_of_written htext hhost hwhole (by decide)
  unfold checkEndpoint
  simp [Url.isEmpty_of_written htext, hparsed, hscheme, hnetloc, hne]

end Readings

/-- What is read where a last segment is written. -/
def settled (last : List Char) : List Char :=
  (Text.cut ';' (Text.trimEndChars last)).1

theorem settled_eq_iff {last : List Char} :
    settled last = last ↔ Text.trimEndChars last = last ∧ ';' ∉ last := by
  constructor
  · intro h
    have hcut : last <+: Text.trimEndChars last := by
      conv_lhs => rw [← h]
      exact Text.cut_prefix ';' _
    refine ⟨(Text.trimEndChars_prefix last).eq_of_length_le hcut.length_le, ?_⟩
    rw [← h]
    exact Text.sep_not_mem_cut ';' _
  · rintro ⟨htrim, hparameters⟩
    rw [settled, htrim, Text.cut_of_not_mem hparameters]

section Reread

variable {front : List String} {last : String}

theorem WrittenAs.trim_eq (h : a.WrittenAs host front last) :
    (Text.trim a.canonicalUrl).toList =
      written host.toList (front.map String.toList ++ [Text.trimEndChars last.toList]) := by
  rw [Text.trim, String.toList_ofList, h.url, Text.trimChars, written_concat, written_concat,
    ← Text.trimEndChars_append_cons (by decide)]
  rfl

theorem WrittenAs.trim_eq_iff (h : a.WrittenAs host front last) :
    Text.trim a.canonicalUrl = a.canonicalUrl ↔ Text.trimEndChars last.toList = last.toList := by
  rw [← String.toList_inj, h.trim_eq, h.url, written_concat, written_concat,
    List.append_cancel_left_eq, List.cons.injEq, and_iff_right rfl]

theorem WrittenAs.cutLast_eq (h : a.WrittenAs host front last) :
    (Text.cutLast '/' a.canonicalUrl.toList).2 = last.toList := by
  have hslash : '/' ∉ last.toList := fun hmem => by
    cases List.all_eq_true.mp h.isSegment_last.2 '/' hmem
  rw [h.url, written_concat, Text.cutLast_append hslash]

/-- What is read from the canonical URL of an authority. -/
theorem WrittenAs.parse_trim (h : a.WrittenAs host front last) (hhost : NetlocFits host.toList) :
    ∃ parsed, Url.parse (Text.trim a.canonicalUrl) = .ok parsed ∧ parsed.scheme = "https" ∧
      parsed.netloc = host ∧ parsed.segments = front ++
        if (settled last.toList).isEmpty then [] else [String.ofList (settled last.toList)] := by
  refine parse_of_written h.trim_eq hhost (fun _ hmem => h.isSegment_of_mem hmem) ?_
  rw [List.all_eq_true]
  exact fun c hc =>
    List.all_eq_true.mp h.isSegment_last.2 c ((Text.trimEndChars_prefix _).subset hc)

end Reread

/-- **An authority is what is read from its own canonical URL exactly if that ends in no blank and
its last segment has no parameters.** -/
theorem ofUrl_canonicalUrl_iff {url : String} {endpoint : Option String} {a : Authority}
    (h : ofUrl url endpoint = .ok a) :
    ofUrl a.canonicalUrl endpoint = .ok a ↔ Text.trim a.canonicalUrl = a.canonicalUrl ∧
      ';' ∉ (Text.cutLast '/' a.canonicalUrl.toList).2 := by
  obtain ⟨original, front, last, hparsed, hne, hwritten, hshape, hends⟩ := exists_written_of_ofUrl h
  obtain ⟨parsed, hagain, hscheme, hnetloc, hsegments⟩ :=
    hwritten.parse_trim (Url.netlocFits_host hparsed)
  have hhost : parsed.host = original.host := by
    rw [Url.host, hnetloc, Url.host, Text.lower_lower]
  have hlast : last.toList ≠ [] := hwritten.isSegment_last.1
  rw [hwritten.trim_eq_iff, hwritten.cutLast_eq, ← settled_eq_iff, ofUrl_eq_ok_iff]
  constructor
  · rintro ⟨-, found, hfound, -, -, hread⟩
    rw [hagain] at hfound
    cases hfound
    rw [hhost, hsegments] at hread
    rcases hends with rfl | hends
    · decide
    · have hrear := hends _ (by split <;> simp) hread
      split at hrear
      · cases hrear
      · have hread := congrArg String.toList (List.head_eq_of_cons_eq hrear)
        rwa [String.toList_ofList] at hread
  · intro hsettled
    refine ⟨Url.isEmpty_of_written hwritten.url, parsed, hagain, hscheme, by rw [hnetloc, hne], ?_⟩
    rw [hhost, hsegments, hsettled, if_neg (by simpa using hlast), String.ofList_toList]
    exact hshape

/-- The tenant is lifted with its parameters, and loses them where it stands last. -/
theorem ofUrl_canonicalUrl_iff_parameters :
    let a : Authority := { canonicalUrl := "https://h/t;v=1", tenant := some "t;v=1" }
    ofUrl "https://h/t;v=1/p" none = .ok a ∧ ofUrl a.canonicalUrl none ≠ .ok a ∧
      ofUrl a.canonicalUrl none = .ok { canonicalUrl := "https://h/t", tenant := some "t" } := by
  intro a
  have h : ofUrl "https://h/t;v=1/p" none = .ok a := toOption_eq_some.mp (by decide)
  refine ⟨h, fun hagain => ?_, toOption_eq_some.mp (by decide)⟩
  have hparameters := ((ofUrl_canonicalUrl_iff h).mp hagain).2
  exact absurd (by decide) hparameters

end TokenEndpoint.Authority
