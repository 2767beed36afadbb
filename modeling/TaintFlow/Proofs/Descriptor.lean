/-
Module: TaintFlow.Proofs.Descriptor
Purpose: Reading descriptors undoes writing them, and accepts nothing else. Splitting a sequence of types
  takes one character after the other; what it has taken of the type at hand is brackets, or brackets, the
  letter of a class and characters of its name. So every type it returns is a type name, and the text that
  it took is what writing these types gives.
Main exports: Descriptor.IsTypeName, Descriptor.splitTypes_eq_ok_iff, Descriptor.parse_inverts_render
-/
import TaintFlow.Descriptor
import TaintFlow.Proofs.Dump.Formed

namespace TaintFlow.Descriptor

open Dump (bind_eq_ok)

/-- A type name: any number of array brackets before the letter of a base type, or before `L` and a class
    name, which may hold any characters other than semicolons. -/
inductive IsTypeName : TypeName → Prop where
  | base {c : Char} : c ∈ ['Z', 'B', 'C', 'S', 'I', 'J', 'F', 'D', 'V'] → IsTypeName (.ofList [c])
  | named {name : List Char} : ';' ∉ name → IsTypeName (.ofList ('L' :: name))
  | array {element : List Char} : IsTypeName (.ofList element) → IsTypeName (.ofList ('[' :: element))

/-- What can stand in a descriptor as a parameter: no parenthesis closes the list of parameters, and void
    has no values. -/
structure IsParameter (t : TypeName) : Prop where
  name : IsTypeName t
  unclosed : ')' ∉ t.toList
  inhabited : t ≠ "V"

theorem isBaseLetter_iff {c : Char} :
    isBaseLetter c = true ↔ c ∈ ['Z', 'B', 'C', 'S', 'I', 'J', 'F', 'D', 'V'] := by
  simp [isBaseLetter]

/-! ### How types are written -/

@[simp] theorem encodeType_array (element : List Char) :
    encodeType (.ofList ('[' :: element)) = '[' :: encodeType (.ofList element) := by
  simp only [encodeType, String.toList_ofList, decide_true, List.dropWhile_cons_of_pos]
  split <;> rfl

@[simp] theorem encodeType_named (name : List Char) :
    encodeType (.ofList ('L' :: name)) = 'L' :: name ++ [';'] := by
  simp [encodeType]

theorem encodeType_base {c : Char} (hc : isBaseLetter c = true) : encodeType (.ofList [c]) = [c] := by
  rw [isBaseLetter_iff] at hc
  simp only [List.mem_cons, List.not_mem_nil, or_false] at hc
  rcases hc with rfl | rfl | rfl | rfl | rfl | rfl | rfl | rfl | rfl <;> simp [encodeType]

theorem mem_encodeType {t : TypeName} : ')' ∈ encodeType t ↔ ')' ∈ t.toList := by
  unfold encodeType
  split <;> simp

/-! ### Splitting what was written -/

/-- A class name is read up to its semicolon. -/
theorem splitTypes_named {name : List Char} (hname : ';' ∉ name) (read rest : List Char) :
    splitTypes read true (name ++ ';' :: rest) =
      (splitTypes [] false rest).map (String.ofList (read.reverse ++ name) :: ·) := by
  induction name generalizing read with
  | nil =>
      simp only [List.nil_append, splitTypes, if_true, List.append_nil]
      cases splitTypes [] false rest <;> rfl
  | cons c name ih =>
      simp only [List.mem_cons, not_or] at hname
      simp only [List.cons_append, splitTypes, if_true, if_neg (Ne.symm hname.1)]
      rw [ih hname.2]
      simp

/-- A type is read up to the end of what was written for it. -/
theorem splitTypes_encodeType {t : TypeName} (ht : IsTypeName t) (read rest : List Char) :
    splitTypes read false (encodeType t ++ rest) =
      (splitTypes [] false rest).map (String.ofList (read.reverse ++ t.toList) :: ·) := by
  induction ht generalizing read with
  | @base c hc =>
      have hbase := isBaseLetter_iff.mpr hc
      have hbracket : c ≠ '[' := by rintro rfl; simp at hc
      have hclass : c ≠ 'L' := by rintro rfl; simp at hc
      rw [encodeType_base hbase]
      simp only [List.cons_append, List.nil_append, splitTypes, Bool.false_eq_true, if_false, hbracket,
        hclass, hbase, if_true, List.reverse_cons, String.toList_ofList]
      cases splitTypes [] false rest <;> rfl
  | named hname =>
      rw [encodeType_named, List.append_assoc, List.singleton_append, List.cons_append, splitTypes]
      simp only [Bool.false_eq_true, if_false, Char.reduceEq, if_true]
      rw [splitTypes_named hname, List.reverse_cons, List.append_assoc, String.toList_ofList]
      rfl
  | array _ ih =>
      rw [encodeType_array, List.cons_append, splitTypes]
      simp only [Bool.false_eq_true, if_false, if_true]
      rw [ih, List.reverse_cons, List.append_assoc, String.toList_ofList, String.toList_ofList]
      rfl

/-- Splitting undoes writing types one after the other. -/
theorem splitTypes_flatMap {ts : List TypeName} (hts : ∀ t ∈ ts, IsTypeName t) :
    splitTypes [] false (ts.flatMap encodeType) = .ok ts := by
  induction ts with
  | nil => rfl
  | cons t ts ih =>
      rw [List.forall_mem_cons] at hts
      rw [List.flatMap_cons, splitTypes_encodeType hts.1, ih hts.2]
      simp [Except.map]

/-! ### What splitting accepts -/

/-- What can have been taken of a type that is not complete, last character first, and whether a class name
    has begun. -/
inductive Pending : List Char → Bool → Prop where
  | start : Pending [] false
  | bracket {read : List Char} : Pending read false → Pending ('[' :: read) false
  | opened {read : List Char} : Pending read false → Pending ('L' :: read) true
  | letter {read : List Char} {c : Char} : c ≠ ';' → Pending read true → Pending (c :: read) true

namespace Pending

variable {read : List Char}

/-- Brackets go with any type. -/
theorem array (h : Pending read false) {element : List Char} (helement : IsTypeName (.ofList element)) :
    IsTypeName (.ofList (read.reverse ++ element)) ∧
      encodeType (.ofList (read.reverse ++ element)) =
        read.reverse ++ encodeType (.ofList element) := by
  generalize hclass : false = inClass at h
  induction h generalizing element with
  | start => exact ⟨helement, rfl⟩
  | bracket _ ih =>
      have hmore := ih (.array helement) hclass
      rw [encodeType_array] at hmore
      simpa only [List.reverse_cons, List.append_assoc, List.cons_append, List.nil_append] using hmore
  | opened => cases hclass
  | letter => cases hclass

/-- A class name can end anywhere. -/
theorem named (h : Pending read true) {name : List Char} (hname : ';' ∉ name) :
    IsTypeName (.ofList (read.reverse ++ name)) ∧
      encodeType (.ofList (read.reverse ++ name)) = read.reverse ++ name ++ [';'] := by
  generalize hclass : true = inClass at h
  induction h generalizing name with
  | start => cases hclass
  | bracket => cases hclass
  | opened hread =>
      have hmore := hread.array (.named hname)
      rw [encodeType_named] at hmore
      simpa only [List.reverse_cons, List.append_assoc, List.cons_append, List.nil_append] using hmore
  | @letter _ c hc _ ih =>
      have hmore := ih (List.not_mem_cons_of_ne_of_not_mem (Ne.symm hc) hname) hclass
      simpa only [List.reverse_cons, List.append_assoc, List.cons_append, List.nil_append] using hmore

end Pending

/-- Splitting returns type names, and what it took is what writing them gives. The induction follows the
    characters: what was taken before of the type at hand stands in front of the text. -/
theorem splitTypes_ok {read text : List Char} {inClass : Bool} {ts : List TypeName}
    (h : splitTypes read inClass text = .ok ts) (hread : Pending read inClass) :
    (∀ t ∈ ts, IsTypeName t) ∧ read.reverse ++ text = ts.flatMap encodeType := by
  fun_induction splitTypes read inClass text generalizing ts with
  | case1 read inClass hempty =>
      cases h
      simp [List.isEmpty_iff.mp hempty]
  | case2 => cases h
  | case3 read rest ih =>
      -- a semicolon ends the class name
      obtain ⟨types, htypes, heq⟩ := bind_eq_ok.mp h
      cases heq
      obtain ⟨hnames, hrest⟩ := ih htypes .start
      obtain ⟨hname, hcode⟩ := hread.named List.not_mem_nil
      rw [List.append_nil] at hname hcode
      refine ⟨List.forall_mem_cons.mpr ⟨hname, hnames⟩, ?_⟩
      rw [List.flatMap_cons, hcode, ← hrest]
      simp
  | case4 read c rest hc ih =>
      have hmore := ih h (.letter hc hread)
      simpa using hmore
  | case5 read inClass rest hclass ih =>
      rw [Bool.not_eq_true] at hclass
      subst hclass
      have hmore := ih h (.bracket hread)
      simpa using hmore
  | case6 read inClass rest hclass _ ih =>
      rw [Bool.not_eq_true] at hclass
      subst hclass
      have hmore := ih h (.opened hread)
      simpa using hmore
  | case7 read inClass c rest hclass _ _ hbase ih =>
      -- a base letter ends the type
      rw [Bool.not_eq_true] at hclass
      subst hclass
      obtain ⟨types, htypes, heq⟩ := bind_eq_ok.mp h
      cases heq
      obtain ⟨hnames, hrest⟩ := ih htypes .start
      obtain ⟨hname, hcode⟩ := hread.array (.base (isBaseLetter_iff.mp hbase))
      rw [encodeType_base hbase] at hcode
      rw [List.reverse_cons]
      refine ⟨List.forall_mem_cons.mpr ⟨hname, hnames⟩, ?_⟩
      rw [List.flatMap_cons, hcode, ← hrest]
      simp
  | case8 => cases h

/-- Splitting accepts exactly the sequences of written types, each with one outcome. -/
theorem splitTypes_eq_ok_iff {text : List Char} {ts : List TypeName} :
    splitTypes [] false text = .ok ts ↔
      (∀ t ∈ ts, IsTypeName t) ∧ text = ts.flatMap encodeType := by
  constructor
  · intro h
    exact splitTypes_ok h .start
  · rintro ⟨hts, rfl⟩
    exact splitTypes_flatMap hts

/-! ### Parameters and result -/

/-- What reading makes of a text that is cut at its first closing parenthesis. -/
theorem parse_cut {text : String} {before after : List Char} (hbefore : ')' ∉ before)
    (htext : text.toList = '(' :: (before ++ ')' :: after)) {d : Descriptor} :
    parse text = .ok d ↔ splitTypes [] false before = .ok d.parameters ∧ voidType ∉ d.parameters ∧
      splitTypes [] false after = .ok [d.result] := by
  have hkeep : ∀ c ∈ before, decide (c ≠ ')') = true := by
    intro c hc
    rw [decide_eq_true_eq]
    rintro rfl
    exact hbefore hc
  have htake : (before ++ ')' :: after).takeWhile (· ≠ ')') = before := by
    rw [List.takeWhile_append_of_pos hkeep]
    simp
  have hdrop : ((before ++ ')' :: after).dropWhile (· ≠ ')')).drop 1 = after := by
    rw [List.dropWhile_append_of_pos hkeep]
    simp
  unfold parse
  simp only [htext, htake, hdrop, List.mem_append, List.mem_cons, true_or, or_true, if_true]
  cases splitTypes [] false before with
  | error fault => simp [bind, Except.bind]
  | ok parameters =>
      simp only [bind, Except.bind, List.contains_iff_mem, Except.ok.injEq]
      by_cases hvoid : voidType ∈ parameters
      · rw [if_pos hvoid]
        constructor
        · intro h
          cases h
        · rintro ⟨rfl, hnot, _⟩
          exact absurd hvoid hnot
      · rw [if_neg hvoid]
        cases splitTypes [] false after with
        | error fault => simp
        | ok results =>
            cases results with
            | nil => simp
            | cons result others =>
                cases others with
                | nil =>
                    constructor
                    · intro h
                      cases h
                      exact ⟨rfl, hvoid, rfl⟩
                    · rintro ⟨rfl, _, h⟩
                      cases h
                      rfl
                | cons => simp

/-- A text that can be read starts with a parenthesis, and one closes it. -/
theorem exists_cut {text : String} {d : Descriptor} (h : parse text = .ok d) :
    ∃ before after, ')' ∉ before ∧ text.toList = '(' :: (before ++ ')' :: after) := by
  unfold parse at h
  split at h
  · next rest htext =>
      split at h
      · next hclosed =>
          obtain ⟨before, after, rfl, hbefore⟩ := List.eq_append_cons_of_mem hclosed
          exact ⟨before, after, hbefore, htext⟩
      · cases h
  · cases h

/-- A text is what writing a descriptor gives, whose types are type names and whose parameters can be told
    from the end of their list. -/
structure Writes (text : String) (d : Descriptor) : Prop where
  result : IsTypeName d.result
  parameters : ∀ t ∈ d.parameters, IsParameter t
  text_eq : text = d.render

theorem parse_eq_ok_iff {text : String} {d : Descriptor} : parse text = .ok d ↔ Writes text d := by
  constructor
  · intro h
    obtain ⟨before, after, hbefore, htext⟩ := exists_cut h
    obtain ⟨hparameters, hvoid, hresult⟩ := (parse_cut hbefore htext).mp h
    rw [splitTypes_eq_ok_iff] at hparameters hresult
    obtain ⟨hparameters, rfl⟩ := hparameters
    obtain ⟨hresult, rfl⟩ := hresult
    constructor
    · exact hresult _ List.mem_cons_self
    · intro t ht
      constructor
      · exact hparameters t ht
      · intro hclosed
        exact hbefore (List.mem_flatMap.mpr ⟨t, ht, mem_encodeType.mpr hclosed⟩)
      · rintro rfl
        exact hvoid ht
    · apply String.toList_injective
      simp [htext, render]
  · intro h
    have hbefore : ')' ∉ d.parameters.flatMap encodeType := by
      intro hclosed
      obtain ⟨t, ht, hclosed⟩ := List.mem_flatMap.mp hclosed
      exact (h.parameters t ht).unclosed (mem_encodeType.mp hclosed)
    have htext : text.toList = '(' :: (d.parameters.flatMap encodeType ++ ')' :: encodeType d.result) := by
      rw [h.text_eq, render, String.toList_ofList]
      rfl
    apply (parse_cut hbefore htext).mpr
    refine ⟨splitTypes_flatMap fun t ht => (h.parameters t ht).name, ?_, ?_⟩
    · intro hvoid
      exact (h.parameters _ hvoid).inhabited rfl
    · simpa using splitTypes_flatMap (List.forall_mem_singleton.mpr h.result)

/-- Reading is inverse to writing. A text can be read as a descriptor exactly if it is what writing this
    descriptor gives, and all other texts are reported as malformed. -/
theorem parse_inverts_render (text : String) :
    (∀ d : Descriptor, parse text = .ok d ↔ Writes text d) ∧
    ((∃ fault : Fault, parse text = .error fault ∧ (fault.diagnostic text).kind = .malformedDump) ↔
      ∀ d : Descriptor, ¬ Writes text d) := by
  refine ⟨fun d => parse_eq_ok_iff, ?_⟩
  simp only [← parse_eq_ok_iff]
  cases parse text with
  | ok d => simp
  | error fault => simp [Fault.diagnostic]

end TaintFlow.Descriptor
