/-
**Service names with room for an item.**

A check plug-in names the services it finds.  If it finds several of a kind — one per disk, say —
the name is a template with a placeholder for the item, and each service is described by the
template with its item in place of the placeholder.  The item is inserted as it is: an item that
itself looks like a placeholder is not expanded again.

Main definitions:

* `MonitoringPlugins.ServiceName.split` — the text before and after the first placeholder;
* `MonitoringPlugins.ServiceName.hasItem`, `MonitoringPlugins.ServiceName.hasSeveralItems` — whether
  there is a placeholder, or more than one;
* `MonitoringPlugins.ServiceName.HoldsTwice`, `MonitoringPlugins.ServiceName.StandsAt` — the same,
  said of the text: twice, and at a place;
* `MonitoringPlugins.ServiceName.describe` — the description of the service of an item.

Main results:

* `MonitoringPlugins.ServiceName.eq_of_split` — **splitting loses nothing**;
* `MonitoringPlugins.ServiceName.hasSeveralItems_iff` — **there is room for several items exactly if
  the placeholder stands at two places**;
* `MonitoringPlugins.ServiceName.hasItem_iff`, `MonitoringPlugins.ServiceName.holdsTwice_iff` — the
  same by the places of the placeholder;
* `MonitoringPlugins.ServiceName.describe_of_split` — the description of an item is the template
  with the item in place of the first placeholder;
* `MonitoringPlugins.ServiceName.describe_append` — **text in front that has no percent sign stands
  in front of every description**.
-/

set_option autoImplicit false

namespace MonitoringPlugins.ServiceName

/-! ### The placeholder -/

/-- What stands for the item in a template. -/
def placeholder : List Char := ['%', 's']

/-- The text before and after the first placeholder, if there is one. -/
def split : List Char → Option (List Char × List Char)
  | [] => none
  | '%' :: 's' :: post => some ([], post)
  | c :: rest => (split rest).map fun parts => (c :: parts.1, parts.2)

/-- **Splitting loses nothing.** -/
theorem eq_of_split {cs pre post : List Char} (h : split cs = some (pre, post)) :
    cs = pre ++ placeholder ++ post := by
  induction cs using split.induct generalizing pre with
  | case1 => simp [split] at h
  | case2 rest => simp_all [split, placeholder]
  | case3 c rest hc ih =>
    rw [split.eq_3 _ _ hc] at h
    simp only [Option.map_eq_some_iff, Prod.mk.injEq, Prod.exists] at h
    obtain ⟨pre', post', hs, rfl, rfl⟩ := h
    simp [ih hs]

theorem split_cons_of_ne {c : Char} (rest : List Char) (h : c ≠ '%') :
    split (c :: rest) = (split rest).map fun parts => (c :: parts.1, parts.2) :=
  split.eq_3 c rest fun _ hc => absurd hc h

/-- Text in front that has no percent sign cannot be part of a placeholder. -/
theorem split_append {front : List Char} (h : '%' ∉ front) (cs : List Char) :
    split (front ++ cs) = (split cs).map fun parts => (front ++ parts.1, parts.2) := by
  induction front with
  | nil => simp
  | cons c rest ih =>
      rw [List.mem_cons, not_or] at h
      rw [List.cons_append, split_cons_of_ne _ (Ne.symm h.1), ih h.2, Option.map_map]
      rfl

/-- What follows a placeholder is still there after the first placeholder. -/
theorem exists_split (pre post : List Char) :
    ∃ front back, split (pre ++ placeholder ++ post) = some (front, back) ∧ post <:+ back := by
  generalize htext : pre ++ placeholder ++ post = text
  induction text using split.induct generalizing pre with
  | case1 => simp [placeholder] at htext
  | case2 rest =>
    have hpost : post <:+ '%' :: 's' :: rest := htext ▸ List.suffix_append (pre ++ placeholder) post
    have hrest : rest <:+ '%' :: 's' :: rest := List.suffix_append ['%', 's'] rest
    have hlength := congrArg List.length htext
    simp only [List.length_append, List.length_cons, placeholder, List.length_nil] at hlength
    exact ⟨[], rest, rfl, List.suffix_of_suffix_length_le hpost hrest (by omega)⟩
  | case3 c rest hc ih =>
    cases pre with
    | nil =>
      simp only [placeholder, List.nil_append, List.cons_append, List.cons.injEq] at htext
      exact absurd htext.2.symm (hc post htext.1.symm)
    | cons d pre =>
      obtain ⟨rfl, htail⟩ : d = c ∧ pre ++ placeholder ++ post = rest := by simpa using htext
      obtain ⟨front, back, hsplit, hsuffix⟩ := ih pre htail
      exact ⟨d :: front, back, by rw [split.eq_3 _ _ hc, hsplit]; rfl, hsuffix⟩

/-- Whether the template has room for an item. -/
def hasItem (template : String) : Bool := (split template.toList).isSome

/-- Whether the template has room for more than one item. -/
def hasSeveralItems (template : String) : Bool :=
  match split template.toList with
  | some (_, post) => (split post).isSome
  | none => false

/-- Whether a template holds the placeholder at two places.  They do not overlap, because the
placeholder begins and ends with different characters. -/
def HoldsTwice (template : String) : Prop :=
  ∃ pre mid post, template.toList = pre ++ placeholder ++ mid ++ placeholder ++ post

/-- **There is room for several items exactly if the placeholder stands at two places.** -/
theorem hasSeveralItems_iff {template : String} :
    hasSeveralItems template = true ↔ HoldsTwice template := by
  constructor
  · intro h
    unfold hasSeveralItems at h
    split at h
    · next pre rest hfirst =>
      obtain ⟨⟨mid, post⟩, hsecond⟩ := Option.isSome_iff_exists.1 h
      refine ⟨pre, mid, post, ?_⟩
      rw [eq_of_split hfirst, eq_of_split hsecond]
      simp only [List.append_assoc]
    · cases h
  · rintro ⟨pre, mid, post, htext⟩
    obtain ⟨front, back, hfirst, before, hback⟩ := exists_split pre (mid ++ placeholder ++ post)
    obtain ⟨front', back', hsecond, -⟩ := exists_split (before ++ mid) post
    have htemplate : template.toList = pre ++ placeholder ++ (mid ++ placeholder ++ post) := by
      simp only [htext, List.append_assoc]
    have hrest : before ++ mid ++ placeholder ++ post = back := by
      simp only [← hback, List.append_assoc]
    rw [hasSeveralItems, htemplate, hfirst]
    dsimp only
    rw [← hrest, hsecond]
    rfl

/-! ### Places of the placeholder -/

/-- The placeholder stands at a place of a template. -/
def StandsAt (template : String) (i : Nat) : Prop := placeholder <+: template.toList.drop i

theorem standsAt_iff {template : String} {i : Nat} :
    StandsAt template i ↔
      ∃ pre post, template.toList = pre ++ placeholder ++ post ∧ pre.length = i := by
  constructor
  · rintro ⟨post, hpost⟩
    have hi : i ≤ template.toList.length := by
      have hlength := congrArg List.length hpost
      simp only [placeholder, List.length_append, List.length_cons, List.length_drop] at hlength
      omega
    refine ⟨template.toList.take i, post, ?_, List.length_take_of_le hi⟩
    rw [List.append_assoc, hpost, List.take_append_drop]
  · rintro ⟨pre, post, htext, rfl⟩
    rw [StandsAt, htext, List.append_assoc, List.drop_left]
    exact List.prefix_append _ _

/-- **There is room for an item exactly if the placeholder stands somewhere.** -/
theorem hasItem_iff {template : String} :
    hasItem template = true ↔ ∃ i, StandsAt template i := by
  rw [hasItem, Option.isSome_iff_exists]
  constructor
  · rintro ⟨⟨pre, post⟩, hsplit⟩
    exact ⟨pre.length, standsAt_iff.2 ⟨pre, post, eq_of_split hsplit, rfl⟩⟩
  · rintro ⟨i, hi⟩
    obtain ⟨pre, post, htext, -⟩ := standsAt_iff.1 hi
    obtain ⟨front, back, hsplit, -⟩ := exists_split pre post
    exact ⟨(front, back), htext ▸ hsplit⟩

/-- **A template holds the placeholder twice exactly if it stands at two places.**  Two places are
never so close that the placeholders overlap. -/
theorem holdsTwice_iff {template : String} :
    HoldsTwice template ↔ ∃ i j, i < j ∧ StandsAt template i ∧ StandsAt template j := by
  constructor
  · rintro ⟨pre, mid, post, htext⟩
    refine ⟨pre.length, (pre ++ placeholder ++ mid).length, ?_,
      standsAt_iff.2 ⟨pre, mid ++ placeholder ++ post, by simp only [htext, List.append_assoc],
        rfl⟩,
      standsAt_iff.2 ⟨pre ++ placeholder ++ mid, post, htext, rfl⟩⟩
    simp only [placeholder, List.length_append, List.length_cons]
    omega
  · rintro ⟨i, j, hij, hi, hj⟩
    obtain ⟨pre, post, hpre, rfl⟩ := standsAt_iff.1 hi
    obtain ⟨pre', post', hpre', rfl⟩ := standsAt_iff.1 hj
    -- the later front reaches beyond the first place, so it holds the first placeholder
    have hfront : pre <+: template.toList := ⟨placeholder ++ post, by rw [hpre, List.append_assoc]⟩
    have hfront' : pre' <+: template.toList :=
      ⟨placeholder ++ post', by rw [hpre', List.append_assoc]⟩
    obtain ⟨rest, rfl⟩ := List.prefix_of_prefix_length_le hfront hfront' (Nat.le_of_lt hij)
    have hsame : pre ++ (placeholder ++ post) = pre ++ (rest ++ (placeholder ++ post')) := by
      rw [← List.append_assoc, ← hpre, hpre', List.append_assoc, List.append_assoc]
    have hrest : placeholder ++ post = rest ++ (placeholder ++ post') :=
      List.append_cancel_left hsame
    match rest, hrest with
    | [], _ => simp at hij
    | [c], hrest => simp [placeholder] at hrest
    | c :: d :: mid, hrest =>
        obtain ⟨rfl, rfl, -⟩ : '%' = c ∧ 's' = d ∧ post = mid ++ (placeholder ++ post') := by
          simpa [placeholder] using hrest
        exact ⟨pre, mid, post', by simp [hpre', placeholder]⟩

/-! ### Text in front -/

/-- Text in front that has no percent sign neither makes nor takes room for an item. -/
theorem hasItem_append {front : String} (h : '%' ∉ front.toList) (template : String) :
    hasItem (front ++ template) = hasItem template := by
  rw [hasItem, hasItem, String.toList_append, split_append h, Option.isSome_map]

/-- Nor does it make or take room for a second one. -/
theorem hasSeveralItems_append {front : String} (h : '%' ∉ front.toList) (template : String) :
    hasSeveralItems (front ++ template) = hasSeveralItems template := by
  rw [hasSeveralItems, hasSeveralItems, String.toList_append, split_append h]
  cases split template.toList <;> rfl

/-! ### Descriptions -/

/-- The description of the service of an item.  Without an item, and for a template without room
for one, it is the template itself. -/
def describe (template : String) (item : Option String) : String :=
  match item, split template.toList with
  | some item, some (pre, post) => String.ofList (pre ++ item.toList ++ post)
  | _, _ => template

/-- The description of an item is the template with the item in place of the first placeholder. -/
theorem describe_of_split {template item : String} {pre post : List Char}
    (h : split template.toList = some (pre, post)) :
    describe template (some item) = String.ofList (pre ++ item.toList ++ post) := by
  simp [describe, h]

/-- A template without room for an item describes every item alike. -/
theorem describe_of_not_hasItem {template : String} (h : hasItem template = false)
    (item : Option String) : describe template item = template := by
  have hs : split template.toList = none := by simpa [hasItem] using h
  unfold describe
  split
  · simp_all
  · rfl

/-- **Text in front that has no percent sign stands in front of every description.** -/
theorem describe_append {front : String} (h : '%' ∉ front.toList) (template : String)
    (item : Option String) :
    describe (front ++ template) item = front ++ describe template item := by
  cases item with
  | none => rfl
  | some item =>
    have happend := split_append h template.toList
    rw [← String.toList_append] at happend
    cases hsplit : split template.toList with
    | none =>
      have hnone : hasItem template = false := by simp [hasItem, hsplit]
      rw [describe_of_not_hasItem hnone, describe_of_not_hasItem ((hasItem_append h _).trans hnone)]
    | some parts =>
      rw [hsplit] at happend
      rw [describe_of_split hsplit, describe_of_split happend, ← String.toList_inj]
      simp

end MonitoringPlugins.ServiceName
