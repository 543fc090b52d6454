import SealedRpc.Proofs.Http.Exchange
import SealedRpc.Proofs.Text.Parts

/-!
# Paths under a base

A path is posted to under the base of an endpoint. The two are not just put together: the path is
resolved against the base as a relative reference. That takes the last segment off the base, drops
segments that are empty inside, follows dots, and takes a path that begins with a scheme for an
address of its own.

What keeps a base whole is the one slash that it is made to end in: the segment that is taken off
is then the empty one after it. So the segments of a base and of a path, of which none is empty
inside and none is made of dots, come out one after the other (`mergedSegments_eq`), lead to the
path that they spell (`resolvedPath_eq`), and are put under the same authority (`join_eq`).

Bases and paths are told by their segments here, `ofSegments`, so that the induction is on segments
and nothing is said of characters but which marks are not among them.

## Main results

* `IsRoot.split_eq`: what an address under an authority is taken apart into.
* `join_eq`: a path is put behind a base that ends in one slash.
* `sent_post_under_base`: where a post to a path under a base is sent.
-/

namespace SealedRpc.Http

namespace Url

variable {scheme authority base path t : Text} {folders segments : List Text}

/-! ### Characters without a meaning of their own -/

/-- Whether a character is visible in ASCII, is no bracket, and begins neither parameters, a query
nor a fragment. -/
def IsPlain (c : CodePoint) : Prop :=
  (0x21 ≤ c.val ∧ c.val ≤ 0x7E) ∧ c ∉ Text.ofString ";?#[]"

instance : DecidablePred IsPlain := fun _ => inferInstanceAs (Decidable (_ ∧ _))

/-- The marks with a meaning do not stand in a plain text. -/
theorem not_mem_of_plain (h : ∀ c ∈ t, IsPlain c) {mark : CodePoint}
    (hmark : mark ∈ Text.ofString ";?#[]") : mark ∉ t :=
  fun hmem => (h mark hmem).2 hmark

/-- Nothing is cut off at a mark that is not there. -/
theorem cutOff_of_not_mem {mark : CodePoint} (h : mark ∉ t) : cutOff mark t = (t, []) := by
  rw [cutOff, Text.cut?_of_not_mem h]
  rfl

/-- Without a semicolon there are no parameters. -/
theorem cutParameters_of_not_mem (h : (';' : CodePoint) ∉ path) :
    cutParameters path = (path, []) := by
  unfold cutParameters
  split
  · rename_i folder name hcut
    have hname : (';' : CodePoint) ∉ name := by
      intro hmem
      rw [Text.eq_append_of_cutLast? hcut] at h
      exact h (List.mem_append_right _ (List.mem_cons_of_mem _ hmem))
    rw [Text.cut?_of_not_mem hname]
  · exact cutOff_of_not_mem h

/-- A plain path has no fragment, no query and no parameters. -/
theorem cuts_of_plain (h : ∀ c ∈ path, IsPlain c) :
    cutOff '#' path = (path, []) ∧ cutOff '?' path = (path, []) ∧
      cutParameters path = (path, []) :=
  ⟨cutOff_of_not_mem (not_mem_of_plain h (by decide)),
    cutOff_of_not_mem (not_mem_of_plain h (by decide)),
    cutParameters_of_not_mem (not_mem_of_plain h (by decide))⟩

/-- A plain address on the web has a path and nothing after it. -/
theorem IsWeb.split_eq (h : IsWeb t scheme authority path) (hpath : ∀ c ∈ path, IsPlain c)
    (fallback : Text) :
    split t fallback = .ok ⟨Text.asciiLower scheme, authority, path, [], [], []⟩ := by
  have hforms : checkForms authority = .ok () := checkForms_of_visible fun c hc =>
    h.visible c (by simp [h.text_eq, hc])
  have hrest : (authority ++ path).dropWhile (fun c => !endsAuthority c) = path := by
    have hwhole := List.takeWhile_append_dropWhile (p := fun c => !endsAuthority c)
      (l := authority ++ path)
    rw [h.takeWhile_authority] at hwhole
    exact List.append_cancel_left hwhole
  obtain ⟨hfragment, hquery, hparameters⟩ := cuts_of_plain hpath
  rw [split]
  simp only [dropWhile_of_visible h.visible, filter_of_visible h.visible, h.cutScheme?_eq,
    Option.getD_some, Text.after?_append, h.takeWhile_authority, hrest, h.brackets, hforms,
    hfragment, hquery, hparameters, ite_self, bind, Except.bind, pure, Except.pure]

/-- A plain reference without a colon, and without a slash in front, is a path. -/
theorem split_reference (hplain : ∀ c ∈ path, IsPlain c) (hcolon : (':' : CodePoint) ∉ path)
    (hslash : path.head? ≠ some ('/' : CodePoint)) (fallback : Text) :
    split path fallback = .ok ⟨fallback, [], path, [], [], []⟩ := by
  have hvisible : ∀ c ∈ path, 0x21 ≤ c.val ∧ c.val ≤ 0x7E := fun c hc => (hplain c hc).1
  have hscheme : cutScheme? path = none := by rw [cutScheme?, Text.cut?_of_not_mem hcolon]
  have hauthority : Text.after? (Text.ofString "//") path = none := by
    cases path with
    | nil => rfl
    | cons c rest => exact if_neg fun heq => hslash (congrArg some heq.symm)
  have hbrackets : checkBrackets [] = .ok () :=
    checkBrackets_of_not_mem List.not_mem_nil List.not_mem_nil
  have hforms : checkForms [] = .ok () := rfl
  obtain ⟨hfragment, hquery, hparameters⟩ := cuts_of_plain hplain
  rw [split]
  simp only [dropWhile_of_visible hvisible, filter_of_visible hvisible, hscheme, Option.getD_none,
    hauthority, hbrackets, hforms, hfragment, hquery, hparameters, ite_self, bind, Except.bind,
    pure, Except.pure]

/-! ### Segments -/

/-- Whether a text can stand between the slashes of a path for itself: it is plain, holds no slash,
and is none of the dots that lead elsewhere. -/
structure IsSegment (s : Text) : Prop where
  plain : ∀ c ∈ s, IsPlain c
  slash_not_mem : ('/' : CodePoint) ∉ s
  ne_dot : s ≠ Text.ofString "."
  ne_dots : s ≠ Text.ofString ".."

instance : DecidablePred IsSegment := fun s =>
  decidable_of_iff (s.all (fun c => decide (IsPlain c)) = true ∧ ('/' : CodePoint) ∉ s ∧
      s ≠ Text.ofString "." ∧ s ≠ Text.ofString "..")
    ⟨fun ⟨plain, slash, dot, dots⟩ => ⟨by simpa using plain, slash, dot, dots⟩,
      fun h => ⟨by simpa using h.plain, h.slash_not_mem, h.ne_dot, h.ne_dots⟩⟩

/-- The empty text can stand between slashes. -/
theorem isSegment_nil : IsSegment [] := by decide

/-- Segments with a slash before them begin with the empty one. -/
theorem isSegment_of_mem_rooted (h : ∀ s ∈ segments, IsSegment s) :
    ∀ s ∈ [] :: segments, IsSegment s :=
  List.forall_mem_cons.mpr ⟨isSegment_nil, h⟩

/-- Segments with a slash after them end in the empty one. -/
theorem isSegment_of_mem_slashed (h : ∀ s ∈ segments, IsSegment s) :
    ∀ s ∈ segments ++ [[]], IsSegment s :=
  List.forall_mem_append.mpr ⟨h, List.forall_mem_singleton.mpr isSegment_nil⟩

/-- Segments with slashes between them are plain. -/
theorem plain_of_mem_join (h : ∀ s ∈ segments, IsSegment s) :
    ∀ c ∈ Text.join "/" segments, IsPlain c := by
  intro c hc
  rcases Text.mem_of_mem_join hc with hseparator | ⟨s, hs, hc⟩
  · obtain rfl := List.mem_singleton.mp hseparator
    decide
  · exact (h s hs).plain c hc

/-- The slash before segments is written before them. -/
theorem join_rooted (hne : segments ≠ []) :
    Text.join "/" ([] :: segments) = ('/' : CodePoint) :: Text.join "/" segments := by
  rw [Text.join, List.intercalate_cons_of_ne_nil hne]
  rfl

/-- Segments are found again between the slashes. -/
theorem splitOn_join (hne : segments ≠ []) (h : ∀ s ∈ segments, IsSegment s) :
    Text.splitOn '/' (Text.join "/" segments) = segments :=
  Text.splitOn_join hne fun s hs => (h s hs).slash_not_mem

/-- Segments that lead nowhere else are followed as they come. -/
theorem follow_eq (h : ∀ s ∈ segments, IsSegment s) (kept : List Text) :
    follow kept segments = kept.reverse ++ segments := by
  induction segments generalizing kept with
  | nil => rw [follow, List.append_nil]
  | cons s rest ih =>
      obtain ⟨hs, hrest⟩ := List.forall_mem_cons.mp h
      rw [follow, if_neg hs.ne_dots, if_neg hs.ne_dot, ih hrest, List.reverse_cons,
        List.append_assoc, List.singleton_append]

/-- Segments lead to the path that they spell, if there are any. -/
theorem resolvedPath_eq (hne : segments ≠ []) (h : ∀ s ∈ segments, IsSegment s) :
    resolvedPath ([] :: segments) = Text.join "/" ([] :: segments) := by
  have hfollow : follow [] ([] :: segments) = [] :: segments :=
    follow_eq (isSegment_of_mem_rooted h) []
  have hlast : ([] :: segments).getLast? = some (segments.getLast hne) := by
    rw [List.getLast?_eq_some_getLast (List.cons_ne_nil _ _), List.getLast_cons hne]
  have hdots : (decide (([] :: segments).getLast? = some (Text.ofString "."))
      || decide (([] :: segments).getLast? = some (Text.ofString ".."))) = false := by
    have hsegment := h _ (List.getLast_mem hne)
    simp [hlast, hsegment.ne_dot, hsegment.ne_dots]
  have hrooted : (Text.join "/" ([] :: segments)).isEmpty = false := by
    rw [join_rooted hne]
    rfl
  rw [resolvedPath]
  simp only [hdots, Bool.false_eq_true, if_false, hfollow, List.append_nil, hrooted]

/-! ### Addresses by their segments -/

/-- The address with some segments under an authority, with a slash before each. -/
def ofSegments (scheme authority : Text) (segments : List Text) : Text :=
  scheme ++ (Text.ofString "://" ++ (authority ++ Text.join "/" ([] :: segments)))

/-- More segments come after a slash. -/
theorem ofSegments_append {more : List Text} (hmore : more ≠ []) :
    ofSegments scheme authority (segments ++ more)
      = ofSegments scheme authority segments ++ (Text.ofString "/" ++ Text.join "/" more) := by
  rw [ofSegments, ← List.cons_append, Text.join_append (List.cons_ne_nil _ _) hmore, ofSegments]
  simp only [List.append_assoc]

/-- What an address under a base begins with: a scheme of the web, and an authority in plain
characters. -/
structure IsRoot (scheme authority : Text) : Prop where
  scheme_eq : scheme = Text.ofString "http" ∨ scheme = Text.ofString "https"
  authority_ne_nil : authority ≠ []
  slash_not_mem : ('/' : CodePoint) ∉ authority
  plain : ∀ c ∈ authority, IsPlain c

/-- Segments under an authority are an address on the web. -/
theorem IsRoot.isWeb (h : IsRoot scheme authority) (hsegments : ∀ s ∈ segments, IsSegment s) :
    IsWeb (ofSegments scheme authority segments) scheme authority
      (Text.join "/" ([] :: segments)) := by
  have hpath : ∀ c ∈ Text.join "/" ([] :: segments), IsPlain c :=
    plain_of_mem_join (isSegment_of_mem_rooted hsegments)
  have hmark {mark : CodePoint} (hmark : mark ∈ Text.ofString ";?#[]") : mark ∉ authority :=
    not_mem_of_plain h.plain hmark
  refine ⟨rfl, ?scheme, fun c hc => ?authority, checkBrackets_of_not_mem (hmark (by decide))
    (hmark (by decide)), fun c hc => ?path, fun c hc => ?visible⟩
  case scheme =>
    rcases h.scheme_eq with rfl | rfl
    · exact .inl rfl
    · exact .inr rfl
  case authority =>
    have hslash : c ≠ '/' := fun heq => h.slash_not_mem (heq ▸ hc)
    have hquery : c ≠ '?' := fun heq => hmark (by decide) (heq ▸ hc)
    have hfragment : c ≠ '#' := fun heq => hmark (by decide) (heq ▸ hc)
    simp [endsAuthority, hslash, hquery, hfragment]
  case path =>
    cases segments with
    | nil => cases hc
    | cons s rest =>
        rw [join_rooted (List.cons_ne_nil _ _)] at hc
        obtain rfl := Option.some.inj hc
        rfl
  case visible =>
    have hstart : (scheme ++ Text.ofString "://").all (fun c => 0x21 ≤ c.val && c.val ≤ 0x7E)
        = true := by
      rcases h.scheme_eq with rfl | rfl <;> decide
    rw [ofSegments, ← List.append_assoc] at hc
    rcases List.mem_append.mp hc with hc | hc
    · simpa using List.all_eq_true.mp hstart c hc
    rcases List.mem_append.mp hc with hc | hc
    · exact (h.plain c hc).1
    · exact (hpath c hc).1

/-- Segments under an authority are taken apart into the scheme, the authority and a path. -/
theorem IsRoot.split_eq (h : IsRoot scheme authority) (hsegments : ∀ s ∈ segments, IsSegment s)
    (fallback : Text) : split (ofSegments scheme authority segments) fallback
      = .ok ⟨scheme, authority, Text.join "/" ([] :: segments), [], [], []⟩ := by
  have hlower : Text.asciiLower scheme = scheme := by
    rcases h.scheme_eq with rfl | rfl <;> decide
  have hpath : ∀ c ∈ Text.join "/" ([] :: segments), IsPlain c :=
    plain_of_mem_join (isSegment_of_mem_rooted hsegments)
  rw [(h.isWeb hsegments).split_eq hpath, hlower]

/-- These parts are written as they were. -/
theorem IsRoot.toText_eq (h : IsRoot scheme authority) (hne : segments ≠ []) :
    toText ⟨scheme, authority, Text.join "/" ([] :: segments), [], [], []⟩
      = ofSegments scheme authority segments := by
  have hrooted : (Text.join "/" ([] :: segments)).head? = some ('/' : CodePoint) := by
    rw [join_rooted hne]
    rfl
  have hscheme : scheme.isEmpty = false := by
    rcases h.scheme_eq with rfl | rfl <;> rfl
  have hauthority : authority.isEmpty = false := List.isEmpty_eq_false_iff.mpr h.authority_ne_nil
  rw [toText]
  simp only [List.isEmpty_nil, if_true, hscheme, hauthority, Bool.not_false, Bool.true_or, hrooted,
    decide_true, Bool.or_true, Bool.false_eq_true, if_false]
  rw [ofSegments]
  simp only [List.append_assoc]
  rfl

/-- A request to segments under an authority is sent to this address. -/
theorem IsRoot.forRequest_eq (h : IsRoot scheme authority)
    (hsegments : ∀ s ∈ segments, IsSegment s) :
    forRequest (ofSegments scheme authority segments)
      = .ok (ofSegments scheme authority segments) := by
  have hweb := h.isWeb hsegments
  have hfragment : ('#' : CodePoint) ∉ ofSegments scheme authority segments := by
    have hpath : ∀ c ∈ Text.join "/" ([] :: segments), IsPlain c :=
      plain_of_mem_join (isSegment_of_mem_rooted hsegments)
    rw [ofSegments]
    simp only [List.mem_append, not_or]
    exact ⟨fun hmem => (hweb.ne_of_mem hmem).2.2 rfl, by decide,
      not_mem_of_plain h.plain (by decide), not_mem_of_plain hpath (by decide)⟩
  obtain ⟨address, haddress, heq | heq⟩ :=
    WellFormed.exists_forRequest_eq ⟨scheme, authority, _, hweb⟩
  · rwa [← heq] at haddress
  · exact absurd (heq ▸ List.mem_append_right _ List.mem_cons_self) hfragment

/-! ### Bases and paths -/

/-- A number of slashes. -/
def slashes (count : Nat) : Text := List.replicate count '/'

/-- A base that paths can be put under: an authority with some segments, none of them empty, and any
number of slashes at the end. -/
structure IsBase (base scheme authority : Text) (folders : List Text) : Prop
    extends IsRoot scheme authority where
  text_eq : ∃ count, base = ofSegments scheme authority folders ++ slashes count
  segment : ∀ s ∈ folders, IsSegment s
  filled : ∀ s ∈ folders, s ≠ []

/-- A path that can be put under a base: segments behind any number of slashes. The last segment
alone may be empty, so that the path ends in a slash or has nothing but slashes. -/
structure IsPath (path : Text) (segments : List Text) : Prop where
  text_eq : ∃ count, path = slashes count ++ Text.join "/" segments
  ne_nil : segments ≠ []
  segment : ∀ s ∈ segments, IsSegment s
  filled : ∀ s ∈ segments.dropLast, s ≠ []
  colon_not_mem : (':' : CodePoint) ∉ path

/-- Slashes in front are taken off a text that begins with none. -/
theorem dropWhile_slashes (h : t.head? ≠ some ('/' : CodePoint)) (count : Nat) :
    (slashes count ++ t).dropWhile (· = ('/' : CodePoint)) = t := by
  rw [List.dropWhile_append_of_pos fun c hc => decide_eq_true (List.eq_of_mem_replicate hc)]
  cases t with
  | nil => rfl
  | cons c rest => exact List.dropWhile_cons_of_neg (by simpa using h)

/-- More slashes at the end make no difference. -/
theorem withoutSlashes_append (t : Text) (count : Nat) :
    Endpoint.withoutSlashes (t ++ slashes count) = Endpoint.withoutSlashes t := by
  have hslashes : ∀ c ∈ (slashes count).reverse, decide (c = ('/' : CodePoint)) = true :=
    fun c hc => decide_eq_true (List.eq_of_mem_replicate (List.mem_reverse.mp hc))
  rw [Endpoint.withoutSlashes, Endpoint.withoutSlashes, Text.dropEndWhile, Text.dropEndWhile,
    List.reverse_append, List.dropWhile_append_of_pos hslashes]

/-- Nothing is taken off a text whose last part holds no slash. -/
theorem withoutSlashes_of_part {front part : Text} (hne : part ≠ [])
    (hslash : ('/' : CodePoint) ∉ part) :
    Endpoint.withoutSlashes (front ++ part) = front ++ part := by
  obtain ⟨c, rest, hreverse⟩ := List.exists_cons_of_ne_nil (List.reverse_ne_nil_iff.mpr hne)
  have hc : c ≠ '/' := by
    rintro rfl
    exact hslash (List.mem_reverse.mp (hreverse ▸ List.mem_cons_self))
  rw [Endpoint.withoutSlashes, Text.dropEndWhile, List.reverse_append, hreverse, List.cons_append,
    List.dropWhile_cons_of_neg (by simpa using hc), ← List.cons_append, ← hreverse,
    ← List.reverse_append, List.reverse_reverse]

/-- A base without the slashes at its end is the address of its segments. -/
theorem IsBase.withoutSlashes_eq (h : IsBase base scheme authority folders) :
    Endpoint.withoutSlashes base = ofSegments scheme authority folders := by
  obtain ⟨count, hbase⟩ := h.text_eq
  rw [hbase, withoutSlashes_append]
  rcases List.eq_nil_or_concat folders with rfl | ⟨front, folder, rfl⟩
  · have hroot : ofSegments scheme authority [] = scheme ++ Text.ofString "://" ++ authority := by
      simp only [ofSegments, Text.join, List.intercalate_singleton, List.append_nil,
        List.append_assoc]
    rw [hroot]
    exact withoutSlashes_of_part h.authority_ne_nil h.slash_not_mem
  · rw [List.concat_eq_append] at h ⊢
    have hfolder : folder ∈ front ++ [folder] := List.mem_append_right _ List.mem_cons_self
    rw [ofSegments_append (List.cons_ne_nil _ _), Text.join, List.intercalate_singleton,
      ← List.append_assoc]
    exact withoutSlashes_of_part (h.filled folder hfolder) (h.segment folder hfolder).slash_not_mem

section IsPath

variable (h : IsPath path segments)
include h

/-- The first segment of a path begins with no slash, and it is there unless it is the last. -/
theorem IsPath.head?_ne : (Text.join "/" segments).head? ≠ some ('/' : CodePoint) := by
  have hne := h.ne_nil
  have hfilled := h.filled
  cases segments with
  | nil => exact absurd rfl hne
  | cons s rest =>
      have hslash := (h.segment s List.mem_cons_self).slash_not_mem
      cases rest with
      | nil =>
          rw [Text.join, List.intercalate_singleton]
          exact fun hhead => hslash (List.mem_of_head? hhead)
      | cons second more =>
          have hs : s ≠ [] := hfilled s List.mem_cons_self
          rw [Text.join, List.intercalate_cons_cons, List.append_assoc, List.head?_append,
            List.head?_eq_some_head hs, Option.some_or]
          exact fun hhead => hslash (Option.some.inj hhead ▸ List.head_mem hs)

/-- A path without the slashes in front of it has its segments. -/
theorem IsPath.dropWhile_eq :
    path.dropWhile (· = ('/' : CodePoint)) = Text.join "/" segments := by
  obtain ⟨count, hpath⟩ := h.text_eq
  rw [hpath]
  exact dropWhile_slashes h.head?_ne count

/-- There is nothing in a path only if there is nothing in its only segment. -/
theorem IsPath.eq_of_join (hnil : Text.join "/" segments = []) : segments = [[]] := by
  have hne := h.ne_nil
  cases segments with
  | nil => exact absurd rfl hne
  | cons s rest =>
      cases rest with
      | nil =>
          rw [Text.join, List.intercalate_singleton] at hnil
          rw [hnil]
      | cons second more =>
          rw [Text.join, List.intercalate_cons_cons, List.append_assoc] at hnil
          exact absurd (List.append_eq_nil_iff.mp hnil).1 (h.filled s List.mem_cons_self)

end IsPath

/-! ### Resolving -/

/-- Of segments between a first and a last one, those are kept that are not empty. -/
theorem dropEmptyInside_eq {first : Text} {rest : List Text} (hne : rest ≠ []) :
    dropEmptyInside (first :: rest)
      = first :: (rest.dropLast.filter (fun s => !s.isEmpty) ++ [rest.getLast hne]) := by
  cases rest with
  | nil => exact absurd rfl hne
  | cons second more =>
      rw [dropEmptyInside, List.getLast?_eq_some_getLast hne]
      · rfl
      · exact nofun

/-- The last segment of a base in front of a path is the empty one after its slash. It goes with all
that are empty inside, and what stays are the segments of both. -/
theorem mergedSegments_eq (hfolders : ∀ s ∈ folders, IsSegment s)
    (hfilled : ∀ s ∈ folders, s ≠ []) (h : IsPath path segments) :
    mergedSegments (Text.join "/" ([] :: (folders ++ [[]]))) (Text.join "/" segments)
      = [] :: (folders ++ segments) := by
  have hbase : Text.splitOn '/' (Text.join "/" ([] :: (folders ++ [[]])))
      = [] :: (folders ++ [[]]) :=
    splitOn_join (List.cons_ne_nil _ _)
      (isSegment_of_mem_rooted (isSegment_of_mem_slashed hfolders))
  have hpath : Text.splitOn '/' (Text.join "/" segments) = segments :=
    splitOn_join h.ne_nil h.segment
  have hends : ([] :: (folders ++ [[]]) : List Text).getLast? = some [] := by
    rw [← List.cons_append, List.getLast?_concat]
  have hkept {parts : List Text} (hparts : ∀ s ∈ parts, s ≠ []) :
      parts.filter (fun s => !s.isEmpty) = parts :=
    List.filter_eq_self.mpr fun s hs => by simpa using hparts s hs
  have hempty : ([[]] : List Text).filter (fun s => !s.isEmpty) = [] := rfl
  rw [mergedSegments, if_neg h.head?_ne]
  simp only [hbase, hpath, hends, if_true]
  rw [List.cons_append, dropEmptyInside_eq (List.append_ne_nil_of_right_ne_nil _ h.ne_nil),
    List.dropLast_append_of_ne_nil h.ne_nil, List.getLast_append_of_ne_nil _ h.ne_nil,
    List.filter_append, List.filter_append, hkept hfilled, hkept h.filled, hempty, List.append_nil,
    List.append_assoc, List.dropLast_concat_getLast]

/-- A path is resolved against a base that ends in one slash by putting it after it. -/
theorem join_eq (hroot : IsRoot scheme authority) (hfolders : ∀ s ∈ folders, IsSegment s)
    (hfilled : ∀ s ∈ folders, s ≠ []) (h : IsPath path segments) :
    join (ofSegments scheme authority (folders ++ [[]])) (Text.join "/" segments)
      = .ok (ofSegments scheme authority (folders ++ segments)) := by
  have hbase : (ofSegments scheme authority (folders ++ [[]])).isEmpty = false := by
    rcases hroot.scheme_eq with rfl | rfl <;> rfl
  by_cases hnil : Text.join "/" segments = []
  · rw [h.eq_of_join hnil, join, hbase]
    rfl
  have hcolon : (':' : CodePoint) ∉ Text.join "/" segments := by
    obtain ⟨count, hpath⟩ := h.text_eq
    exact fun hmem => h.colon_not_mem (hpath ▸ List.mem_append_right _ hmem)
  have hsplitBase := hroot.split_eq (isSegment_of_mem_slashed hfolders) []
  have hsplitPath := split_reference (plain_of_mem_join h.segment) hcolon h.head?_ne scheme
  have hschemes : relativeSchemes.contains scheme = true ∧
      authoritySchemes.contains scheme = true := by
    rcases hroot.scheme_eq with rfl | rfl <;> decide
  have hne : folders ++ segments ≠ [] := List.append_ne_nil_of_right_ne_nil _ h.ne_nil
  have hall : ∀ s ∈ folders ++ segments, IsSegment s :=
    List.forall_mem_append.mpr ⟨hfolders, h.segment⟩
  rw [join]
  simp only [hbase, List.isEmpty_eq_false_iff.mpr hnil, hsplitBase, hsplitPath, hschemes, bind,
    Except.bind, pure, Except.pure, Bool.false_eq_true, if_false, ne_eq, not_true, decide_false,
    Bool.not_true, Bool.or_false, List.isEmpty_nil, Bool.and_false, Bool.false_and, if_true,
    mergedSegments_eq hfolders hfilled h, resolvedPath_eq hne hall, hroot.toText_eq hne]

end Url

/-! ### Posts -/

section Posts

open Url

variable {base scheme authority path : Text} {folders segments : List Text}

/-- The address of a path under a base. -/
theorem Endpoint.address_ofBase (hbase : IsBase base scheme authority folders)
    (hpath : IsPath path segments) (timeout : Binary64) (limit : Int) :
    (ofBase base timeout limit).address path
      = .ok (ofSegments scheme authority (folders ++ segments)) := by
  have hslash : withoutSlashes base ++ Text.ofString "/"
      = ofSegments scheme authority (folders ++ [[]]) := by
    rw [hbase.withoutSlashes_eq, ofSegments_append (List.cons_ne_nil _ _), Text.join,
      List.intercalate_singleton, List.append_nil]
  rw [address, hpath.dropWhile_eq, ← join_eq hbase.toIsRoot hbase.segment hbase.filled hpath,
    ← hslash]
  rfl

/-- **Where a post under a base is sent.** Take a base on the web whose segments are plain, not
empty and not made of dots, with any number of slashes at its end, and a path of such segments
without a colon, with any number of slashes in front. A post sends one request, whatever the network
does: to the base without the slashes at its end, a slash, and the path without the slashes in front
of it. This address has the scheme and the authority of the base, under it the segments of the base
and then those of the path, and nothing else. More slashes at the end of the base make no
difference. -/
theorem sent_post_under_base (hbase : IsBase base scheme authority folders)
    (hpath : IsPath path segments) (timeout : Binary64) (limit : Int) (network : Network)
    (body : Bytes) (contentType : Text) :
    let address := Endpoint.withoutSlashes base ++
      (Text.ofString "/" ++ path.dropWhile (· = ('/' : CodePoint)))
    ((Endpoint.ofBase base timeout limit).post network path body contentType).sent
      = [⟨address, body, contentType, timeout⟩] ∧
    address = ofSegments scheme authority (folders ++ segments) ∧
    split address []
      = .ok ⟨scheme, authority, Text.join "/" ([] :: (folders ++ segments)), [], [], []⟩ ∧
    ∀ count, (Endpoint.ofBase (base ++ slashes count) timeout limit).post network path body
        contentType
      = (Endpoint.ofBase base timeout limit).post network path body contentType := by
  intro address
  have hall : ∀ s ∈ folders ++ segments, IsSegment s :=
    List.forall_mem_append.mpr ⟨hbase.segment, hpath.segment⟩
  have haddress : address = ofSegments scheme authority (folders ++ segments) := by
    rw [ofSegments_append hpath.ne_nil, ← hbase.withoutSlashes_eq, ← hpath.dropWhile_eq]
  refine ⟨?_, haddress, ?_, fun count => ?_⟩
  · rw [Endpoint.post_eq (Endpoint.address_ofBase hbase hpath timeout limit), haddress]
    exact (Endpoint.postUrl_eq (hbase.forRequest_eq hall) body contentType).1
  · rw [haddress]
    exact hbase.split_eq hall []
  · rw [Endpoint.ofBase, withoutSlashes_append, ← Endpoint.ofBase]

/-- A post of a path behind two slashes, under a base with a port, two segments and two slashes. It
is sent although there is no answer. -/
theorem sent_post_under_base_sample :
    IsBase "http://mirror:9091/api/v1//" "http" "mirror:9091" ["api", "v1"] ∧
    IsPath "//wallet/call" ["wallet", "call"] ∧
    ((Endpoint.ofBase "http://mirror:9091/api/v1//" Endpoint.defaultTimeout
        Endpoint.defaultLimit).post (fun _ => .failed (.unnumbered [])) "//wallet/call" [1]
        "application/json").sent
      = [⟨"http://mirror:9091/api/v1/wallet/call", [1], "application/json",
          Endpoint.defaultTimeout⟩] := by
  have hauthority : (Text.ofString "mirror:9091").all (fun c => decide (IsPlain c)) = true := by
    decide
  have hbase : IsBase "http://mirror:9091/api/v1//" "http" "mirror:9091" ["api", "v1"] :=
    ⟨⟨.inl rfl, by decide, by decide, by simpa using hauthority⟩, ⟨2, rfl⟩, by decide, by decide⟩
  have hpath : IsPath "//wallet/call" ["wallet", "call"] :=
    ⟨⟨2, rfl⟩, by decide, by decide, by decide, by decide⟩
  exact ⟨hbase, hpath, (sent_post_under_base hbase hpath Endpoint.defaultTimeout
    Endpoint.defaultLimit (fun _ => .failed (.unnumbered [])) [1] "application/json").1⟩

end Posts

end SealedRpc.Http
