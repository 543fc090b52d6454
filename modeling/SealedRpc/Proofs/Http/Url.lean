import SealedRpc.Http.Url

/-!
# Well-formed addresses on the web

An address with the scheme of the web is taken apart without a fault, and requests can be sent to
it. Nothing is taken off such an address but an empty fragment: it holds no white space, and it
begins with its scheme. The scheme, the authority and what follows them are found again, since
none of them holds what ends it.

## Main results

* `IsWeb.exists_split_eq`: an address on the web is taken apart.
* `WellFormed.exists_forRequest_eq`: a request can be sent to it, as it is given.
-/

namespace SealedRpc

/-! ### Cutting -/

namespace Text

variable {mark : CodePoint}

/-- A text is cut at a mark that does not stand in the part before it. -/
theorem cut?_append {before : Text} (h : mark ∉ before) (rest : Text) :
    cut? mark (before ++ mark :: rest) = some (before, rest) := by
  induction before with
  | nil => simp [cut?]
  | cons c more ih =>
      have hc : c ≠ mark := fun e => h (e ▸ List.mem_cons_self)
      have hmore := ih fun hmem => h (List.mem_cons_of_mem _ hmem)
      rw [List.cons_append, cut?, if_neg hc, hmore]
      rfl

/-- A text is not cut at a mark that does not stand in it. -/
theorem cut?_of_not_mem {t : Text} (h : mark ∉ t) : cut? mark t = none := by
  induction t with
  | nil => rfl
  | cons c rest ih =>
      rw [List.mem_cons, not_or] at h
      rw [cut?, if_neg (Ne.symm h.1), ih h.2]
      rfl

/-- Where a text is cut at the last mark, the mark stands. -/
theorem eq_append_of_cutLast? {t before after : Text} (h : cutLast? mark t = some (before, after)) :
    t = before ++ mark :: after := by
  induction t generalizing before after with
  | nil => cases h
  | cons c rest ih =>
      rw [cutLast?] at h
      split at h
      · rename_i first last hrest
        obtain ⟨rfl, rfl⟩ := Prod.mk.inj (Option.some.inj h)
        rw [ih hrest, List.cons_append]
      · split at h
        · rename_i hc
          obtain ⟨rfl, rfl⟩ := Prod.mk.inj (Option.some.inj h)
          rw [hc, List.nil_append]
        · cases h

/-- What follows the beginning of a text. -/
theorem after?_append (start t : Text) : after? start (start ++ t) = some t := by
  induction start with
  | nil => rfl
  | cons c more ih => rw [List.cons_append, after?, if_pos rfl, ih]

/-- Nothing is dropped at the beginning of a text in which nothing is to be dropped. -/
theorem dropWhile_of_forall {p : CodePoint → Bool} {t : Text} (h : ∀ c ∈ t, p c = false) :
    t.dropWhile p = t := by
  cases t with
  | nil => rfl
  | cons c rest => exact List.dropWhile_cons_of_neg (by simp [h c List.mem_cons_self])

/-- Nothing is trimmed off a text without white space. -/
theorem trim_of_forall {t : Text} (h : ∀ c ∈ t, c.isBlank = false) : trim t = t := by
  have hreverse : ∀ c ∈ t.reverse, c.isBlank = false := fun c hc => h c (List.mem_reverse.mp hc)
  rw [trim, trimWhile, dropEndWhile, dropWhile_of_forall h, dropWhile_of_forall hreverse,
    List.reverse_reverse]

end Text

namespace Http.Url

/-! ### Visible characters -/

section Visible

variable {t : Text} (h : ∀ c ∈ t, 0x21 ≤ c.val ∧ c.val ≤ 0x7E)
include h

/-- Nothing is dropped in front of visible characters of ASCII. -/
theorem dropWhile_of_visible : t.dropWhile (fun c => c.val ≤ 0x20) = t :=
  Text.dropWhile_of_forall fun c hc => by
    have := h c hc
    simp
    omega

/-- Nothing is left out of them. -/
theorem filter_of_visible : t.filter (fun c => !(decide (c.val = 0x09) || decide (c.val = 0x0A)
    || decide (c.val = 0x0D))) = t := by
  rw [List.filter_eq_self]
  intro c hc
  have := h c hc
  simp
  omega

/-- No delimiter is disguised among them. -/
theorem checkForms_of_visible : checkForms t = .ok () := by
  refine if_neg fun hany => ?_
  obtain ⟨c, hc, hdisguised⟩ := List.any_eq_true.mp hany
  have hlow : ∀ n ∈ disguised, 0x7E < n := by decide
  exact absurd (hlow _ (by simpa using hdisguised)) (Nat.not_lt.mpr (h c hc).2)

end Visible

/-! ### Well-formed addresses -/

/-- The parts of an address on the web: a scheme in letters of either case, an authority whose
brackets stand around an address of the sixth version or a later one, and the rest. All of it is
made of visible characters of ASCII. -/
structure IsWeb (t scheme authority rest : Text) : Prop where
  text_eq : t = scheme ++ (Text.ofString "://" ++ (authority ++ rest))
  scheme_eq : Text.asciiLower scheme = Text.ofString "http" ∨
    Text.asciiLower scheme = Text.ofString "https"
  ends_authority : ∀ c ∈ authority, endsAuthority c = false
  brackets : checkBrackets authority = .ok ()
  begins_rest : ∀ c ∈ rest.head?, endsAuthority c = true
  visible : ∀ c ∈ t, 0x21 ≤ c.val ∧ c.val ≤ 0x7E

/-- Whether a text is a well-formed address on the web. -/
def WellFormed (t : Text) : Prop :=
  ∃ scheme authority rest, IsWeb t scheme authority rest

/-- An authority without brackets passes the check of its brackets. -/
theorem checkBrackets_of_not_mem {authority : Text} (hopen : ('[' : CodePoint) ∉ authority)
    (hclose : (']' : CodePoint) ∉ authority) : checkBrackets authority = .ok () := by
  have hopens : authority.contains ('[' : CodePoint) = false := by simpa using hopen
  have hcloses : authority.contains (']' : CodePoint) = false := by simpa using hclose
  rw [checkBrackets]
  simp only [hopens, hcloses]
  rfl

/-- An address without encryption on the way, whose authority has no brackets, is well-formed. -/
theorem wellFormed_http (authority rest : Text)
    (hends : authority.all (fun c => !endsAuthority c) = true)
    (hopen : ('[' : CodePoint) ∉ authority) (hclose : (']' : CodePoint) ∉ authority)
    (hbegins : rest.head?.all endsAuthority = true)
    (hvisible : (authority ++ rest).all (fun c => 0x21 ≤ c.val && c.val ≤ 0x7E) = true) :
    WellFormed (Text.ofString "http://" ++ (authority ++ rest)) := by
  have hstart : (Text.ofString "http://").all (fun c => 0x21 ≤ c.val && c.val ≤ 0x7E) = true := by
    decide
  have hall : (Text.ofString "http://" ++ (authority ++ rest)).all
      (fun c => 0x21 ≤ c.val && c.val ≤ 0x7E) = true := by
    rw [List.all_append, hstart, hvisible, Bool.and_self]
  refine ⟨"http", authority, rest, ⟨rfl, .inl rfl, fun c hc => ?_,
    checkBrackets_of_not_mem hopen hclose, fun c hc => ?_, fun c hc => ?_⟩⟩
  · simpa using List.all_eq_true.mp hends c hc
  · rw [Option.mem_def.mp hc] at hbegins
    exact hbegins
  · simpa using List.all_eq_true.mp hall c hc

section IsWeb

variable {t scheme authority rest : Text} (h : IsWeb t scheme authority rest)
include h

/-- A scheme of the web begins with its letter. -/
theorem IsWeb.exists_scheme_eq :
    ∃ c more, scheme = c :: more ∧ CodePoint.asciiLower c = ('h' : CodePoint) := by
  have heq := h.scheme_eq
  cases scheme with
  | nil => exact absurd heq (by decide)
  | cons c more =>
      refine ⟨c, more, rfl, ?_⟩
      rcases heq with he | he
      · exact (List.cons.inj he).1
      · exact (List.cons.inj he).1

/-- A scheme of the web is made of letters. -/
theorem IsWeb.isLetter_of_mem {c : CodePoint} (hc : c ∈ scheme) : isLetter c = true := by
  have hsmall : (Text.asciiLower scheme).all (fun c => 0x61 ≤ c.val && c.val ≤ 0x7A) = true := by
    rcases h.scheme_eq with he | he
    · rw [he]
      decide
    · rw [he]
      decide
  have hlower := List.all_eq_true.mp hsmall _ (List.mem_map_of_mem hc)
  simp only [Bool.and_eq_true, decide_eq_true_eq] at hlower
  rw [CodePoint.asciiLower] at hlower
  split at hlower
  · rename_i hcapital
    simp [isLetter, hcapital]
  · simp [isLetter, hlower]

/-- There is neither a colon nor a slash in a scheme of the web, nor a mark of a fragment. -/
theorem IsWeb.ne_of_mem {c : CodePoint} (hc : c ∈ scheme) : c ≠ ':' ∧ c ≠ '/' ∧ c ≠ '#' := by
  have hletter := h.isLetter_of_mem hc
  refine ⟨?_, ?_, ?_⟩ <;>
  · rintro rfl
    exact absurd hletter (by decide)

/-! ### Taking it apart -/

/-- The scheme of the web is cut off. -/
theorem IsWeb.cutScheme?_eq : cutScheme? t
    = some (Text.asciiLower scheme, Text.ofString "//" ++ (authority ++ rest)) := by
  obtain ⟨c, more, hscheme, -⟩ := h.exists_scheme_eq
  have hcolon : (':' : CodePoint) ∉ scheme := fun hmem => (h.ne_of_mem hmem).1 rfl
  have hchars : scheme.all isSchemeChar = true := by
    rw [List.all_eq_true]
    intro c hc
    rw [isSchemeChar, h.isLetter_of_mem hc]
    rfl
  have hhead : scheme.head?.any isLetter = true := by
    have hletter := h.isLetter_of_mem (hscheme ▸ List.mem_cons_self : c ∈ scheme)
    rw [hscheme]
    exact hletter
  have hcut : Text.cut? ':' t = some (scheme, Text.ofString "//" ++ (authority ++ rest)) := by
    rw [h.text_eq]
    exact Text.cut?_append hcolon _
  rw [cutScheme?, hcut]
  simp only [hhead, hchars, Bool.and_self, if_true]

/-- The authority of an address on the web ends where the rest begins. -/
theorem IsWeb.takeWhile_authority :
    (authority ++ rest).takeWhile (fun c => !endsAuthority c) = authority := by
  rw [List.takeWhile_append_of_pos fun c hc => by rw [h.ends_authority c hc]; rfl]
  have hrest := h.begins_rest
  cases rest with
  | nil => exact List.append_nil _
  | cons c more =>
      have hc := hrest c rfl
      rw [List.takeWhile_cons_of_neg (by simp [hc]), List.append_nil]

/-- An address on the web is taken apart. -/
theorem IsWeb.exists_split_eq (fallback : Text) : ∃ u, split t fallback = .ok u := by
  have hforms : checkForms authority = .ok () := checkForms_of_visible fun c hc =>
    h.visible c (by simp [h.text_eq, hc])
  rw [split]
  simp only [dropWhile_of_visible h.visible, filter_of_visible h.visible, h.cutScheme?_eq,
    Option.getD_some, Text.after?_append, h.takeWhile_authority, h.brackets, hforms, bind,
    Except.bind, pure, Except.pure]
  exact ⟨_, rfl⟩

/-! ### Requests -/

/-- Nothing is taken off an address on the web. -/
theorem IsWeb.unwrap_eq : unwrap t = t := by
  obtain ⟨c, more, hscheme, hc⟩ := h.exists_scheme_eq
  have hfirst : ∃ after, t = c :: after := ⟨_, by rw [h.text_eq, hscheme, List.cons_append]⟩
  obtain ⟨after, hafter⟩ := hfirst
  have hne : c ≠ '<' ∧ 'U' ≠ c := by
    constructor
    · rintro rfl
      exact absurd hc (by decide)
    · rintro rfl
      exact absurd hc (by decide)
  have htrim : t.trim = t := Text.trim_of_forall fun c hc => by
    have := h.visible c hc
    simp [CodePoint.isBlank, CodePoint.inRanges, CodePoint.blankRanges]
    omega
  have hbracketed : (decide (t.head? = some ('<' : CodePoint))
      && decide (t.getLast? = some ('>' : CodePoint))) = false := by
    rw [hafter]
    simp [hne.1]
  have hurl : Text.after? (Text.ofString "URL:") t = none := by
    rw [hafter]
    exact if_neg hne.2
  rw [unwrap]
  simp only [htrim, hbracketed, Bool.false_eq_true, if_false, hurl]

/-- An address on the web begins with a scheme. -/
theorem IsWeb.hasScheme_eq : hasScheme t = true := by
  obtain ⟨c, more, hscheme, -⟩ := h.exists_scheme_eq
  have hdrop : t.dropWhile (fun c : CodePoint => c ≠ '/' && c ≠ ':')
      = (':' : CodePoint) :: (Text.ofString "//" ++ (authority ++ rest)) := by
    rw [h.text_eq, List.dropWhile_append_of_pos fun c hc => by
      have := h.ne_of_mem hc
      simp [this.1, this.2.1]]
    rfl
  have hne : c ≠ ':' := (h.ne_of_mem (hscheme ▸ List.mem_cons_self : c ∈ scheme)).1
  rw [hasScheme, hdrop]
  simp only
  rw [h.text_eq, hscheme]
  simp [hne]

/-- What stands before a mark of a fragment is an address on the web as well. -/
theorem IsWeb.of_fragment {before after : Text}
    (ht : t = before ++ ('#' : CodePoint) :: after) : WellFormed before := by
  have hfree : ('#' : CodePoint) ∉ scheme ++ (Text.ofString "://" ++ authority) := by
    rw [List.mem_append, List.mem_append]
    rintro (hmem | hmem | hmem)
    · exact (h.ne_of_mem hmem).2.2 rfl
    · exact absurd hmem (by decide)
    · exact absurd (h.ends_authority _ hmem) (by decide)
  have hsplit : scheme ++ (Text.ofString "://" ++ authority) ++ rest
      = before ++ ('#' : CodePoint) :: after := by
    rw [← ht, h.text_eq, List.append_assoc, List.append_assoc]
  -- The mark is none of the characters in front of the rest.
  obtain ⟨first, hbefore, hrest⟩ : ∃ first,
      before = scheme ++ (Text.ofString "://" ++ authority) ++ first ∧
        rest = first ++ ('#' : CodePoint) :: after := by
    rcases List.append_eq_append_iff.mp hsplit with hin | ⟨more, hmore, hafter⟩
    · exact hin
    · cases more with
      | nil => exact ⟨[], by simpa using hmore.symm, by simpa using hafter.symm⟩
      | cons c others =>
          obtain ⟨rfl, -⟩ := List.cons.inj hafter
          exact absurd (hmore ▸ List.mem_append_right _ List.mem_cons_self) hfree
  refine ⟨scheme, authority, first, ?_, h.scheme_eq, h.ends_authority, h.brackets, ?_, ?_⟩
  · rw [hbefore, List.append_assoc, List.append_assoc]
  · intro c hc
    refine h.begins_rest c ?_
    rw [hrest]
    cases first with
    | nil => cases hc
    | cons other more => exact hc
  · exact fun c hc => h.visible c (ht ▸ List.mem_append_left _ hc)

end IsWeb

/-- A request can be sent to an address on the web whose fragment was cut off and put back. -/
theorem forRequest_eq {t address fragment full : Text}
    (hcut : (Text.cutLast? '#' (unwrap t)).getD (unwrap t, []) = (address, fragment))
    (hfull : (if fragment.isEmpty then address else address ++ "#" ++ fragment) = full)
    (haddress : WellFormed address) (hwhole : WellFormed full) : forRequest t = .ok full := by
  obtain ⟨_, _, _, haddress⟩ := haddress
  obtain ⟨_, _, _, hwhole⟩ := hwhole
  obtain ⟨u, hu⟩ := hwhole.exists_split_eq []
  rw [forRequest]
  simp only [hcut, hfull, haddress.hasScheme_eq, hu]
  rfl

/-- A request can be sent to a well-formed address on the web. It is sent to the address as it is
given, less the mark of an empty fragment. -/
theorem WellFormed.exists_forRequest_eq {t : Text} (h : WellFormed t) :
    ∃ address, forRequest t = .ok address ∧ (t = address ∨ t = address ++ Text.ofString "#") := by
  obtain ⟨scheme, authority, rest, hweb⟩ := id h
  have hunwrap := hweb.unwrap_eq
  cases hcut : Text.cutLast? '#' t with
  | none =>
      have hparts : (Text.cutLast? '#' (unwrap t)).getD (unwrap t, []) = (t, []) := by
        rw [hunwrap, hcut]
        rfl
      exact ⟨t, forRequest_eq hparts rfl h h, .inl rfl⟩
  | some parts =>
      obtain ⟨before, after⟩ := parts
      have ht := Text.eq_append_of_cutLast? hcut
      have hbefore := hweb.of_fragment ht
      have hparts : (Text.cutLast? '#' (unwrap t)).getD (unwrap t, []) = (before, after) := by
        rw [hunwrap, hcut]
        rfl
      cases after with
      | nil => exact ⟨before, forRequest_eq hparts rfl hbefore hbefore, .inr ht⟩
      | cons c more =>
          refine ⟨t, forRequest_eq hparts ?_ hbefore h, .inl rfl⟩
          rw [ht]
          exact List.append_assoc _ _ _

end Http.Url

end SealedRpc
