import DataAccess.Proofs.Query.Reference
import DataAccess.Proofs.Results
import DataAccess.Proofs.Text.Blank
import DataAccess.Proofs.Text.Case
import DataAccess.Proofs.Text.Split
import DataAccess.Query.Reading
import Mathlib.Data.List.Basic

/-!
# Requests read as they were written

Conditions, sort entries, fields, relations and a page are written as arguments of one flat list, each
with the separators of its own grammar. They are read from it as they were written, and none is taken
for another, as long as the names that are written have no separator in them. A name may be that of a
directive, and a value may hold anything.
-/

namespace DataAccess

open Text (Trimmed)

/-! ### Lists of entries -/

namespace Reading

/-- A text that a list of entries can have as an entry. -/
structure IsEntry (text : String) : Prop where
  ne_empty : text ≠ ""
  trimmed : Trimmed text.toList
  comma : ',' ∉ text.toList

theorem entries_join {texts : List String} (h : ∀ text ∈ texts, IsEntry text) :
    entries (Text.join "," texts) = texts := by
  cases texts with
  | nil => rfl
  | cons first rest =>
      have htrim : (first :: rest).map Text.trim = first :: rest := by
        rw [List.map_congr_left fun text htext => Text.trim_of_trimmed (h text htext).trimmed,
          List.map_id']
      have hsplit : Text.split ',' (Text.join "," (first :: rest)) = first :: rest :=
        Text.split_join (List.cons_ne_nil first rest) fun text htext => (h text htext).comma
      rw [entries, hsplit, htrim, List.filter_eq_self]
      exact fun text htext => decide_eq_true (h text htext).ne_empty

end Reading

/-! ### Names and words -/

/-- The characters that divide the arguments of a request. -/
def separators : List Char := ['.', ',', ':', '=', '[']

/-- A name that can be written in a request. -/
structure PlainName (name : String) : Prop where
  ne_empty : name ≠ ""
  trimmed : Trimmed name.toList
  undivided : ∀ c ∈ separators, c ∉ name.toList

theorem plainName_iff (name : String) :
    PlainName name ↔ name ≠ "" ∧ Trimmed name.toList ∧
      separators.all (fun c => !name.toList.contains c) = true := by
  have hundivided : separators.all (fun c => !name.toList.contains c) = true ↔
      ∀ c ∈ separators, c ∉ name.toList := by
    simp only [List.all_eq_true, Bool.not_eq_true', List.contains_eq_mem, decide_eq_false_iff_not]
  rw [hundivided]
  exact ⟨fun h => ⟨h.ne_empty, h.trimmed, h.undivided⟩, fun h => ⟨h.1, h.2.1, h.2.2⟩⟩

instance (name : String) : Decidable (PlainName name) :=
  decidable_of_iff _ (plainName_iff name).symm

/-- A way to write words that only changes their letter case. -/
def Respells (spell : String → String) : Prop := ∀ word, Text.lower (spell word) = Text.lower word

theorem respells_lower : Respells Text.lower := Text.lower_lower

/-- What begins with a name and ends with one has no blanks at its ends. -/
theorem PlainName.trimmed_append {first last : String} (hfirst : PlainName first)
    (hlast : PlainName last) (middle : List Char) :
    Trimmed (first.toList ++ (middle ++ last.toList)) := by
  have hhead : first.toList ≠ [] := fun h => hfirst.ne_empty (String.toList_eq_nil_iff.mp h)
  have hend : last.toList ≠ [] := fun h => hlast.ne_empty (String.toList_eq_nil_iff.mp h)
  constructor
  · rw [List.head?_append, Option.or_of_isSome (List.isSome_head?.mpr hhead)]
    exact hfirst.trimmed.1
  · rw [← List.append_assoc, List.getLast?_append,
      Option.or_of_isSome (List.getLast?_isSome.mpr hend)]
    exact hlast.trimmed.2

/-- A word of letters and low lines is a name, in any letter case. -/
theorem plainName_spell {spell : String → String} (hspell : Respells spell) {word : String}
    (hne : word ≠ "")
    (hword : (Text.lower word).toList.all (fun c => !Text.isBlank c && !separators.contains c) = true) :
    PlainName (spell word) := by
  have hchar : ∀ c ∈ (spell word).toList, Text.isBlank c = false ∧ c ∉ separators := by
    intro c hc
    -- No capital letter is a blank or a separator, so it is enough to look at the lower case.
    have hlower := List.all_eq_true.mp hword _ (Text.lowerChar_mem_of_lower_eq (hspell word) hc)
    have hplain := Text.of_lowerChar
      (P := fun c => (!Text.isBlank c && !separators.contains c) = true) (by decide) hlower
    simpa using hplain
  refine ⟨fun hempty => hne ?_, ⟨fun c hc => ?_, fun c hc => ?_⟩, fun c hc hmem => ?_⟩
  · have hlength := congrArg (·.toList.length) (hspell word)
    simp only [hempty, Text.lower, String.toList_ofList, List.length_map] at hlength
    exact String.toList_eq_nil_iff.mp (List.length_eq_zero_iff.mp hlength.symm)
  · exact (hchar c (List.mem_of_mem_head? hc)).1
  · exact (hchar c (List.mem_of_mem_getLast? hc)).1
  · exact (hchar c hmem).2 hc

section Words

variable {spell : String → String} (hspell : Respells spell)

include hspell

theorem Operator.plainName_spell (op : Operator) : PlainName (spell op.name) :=
  DataAccess.plainName_spell hspell (by cases op <;> decide) (by cases op <;> decide)

theorem SortDirection.plainName_spell (direction : SortDirection) :
    PlainName (spell direction.name) :=
  DataAccess.plainName_spell hspell (by cases direction <;> decide) (by cases direction <;> decide)

theorem JoinType.plainName_spell (join : JoinType) : PlainName (spell join.name) :=
  DataAccess.plainName_spell hspell (by cases join <;> decide) (by cases join <;> decide)

theorem Operator.ofName_spell (op : Operator) : ofName (spell op.name) = .ok op := by
  simp only [ofName, Text.equalIgnoringCase, hspell op.name]
  cases op <;> rfl

theorem SortDirection.ofName_spell (direction : SortDirection) :
    ofName (spell direction.name) = .ok direction := by
  rw [ofName, hspell direction.name]
  cases direction <;> rfl

theorem JoinType.ofName_spell (join : JoinType) : ofName (spell join.name) = .ok join := by
  simp only [ofName, hspell join.name]
  cases join <;> rfl

end Words

/-! ### References -/

/-- What a request can refer to: a column of the table, or one of a related table. -/
inductive Reference
  | own (column : String)
  | related (table column : String)
  deriving DecidableEq, Repr

namespace Reference

def text : Reference → String
  | own column => column
  | related table column => table ++ "." ++ column

def own? : Reference → Option String
  | own column => some column
  | related _ _ => none

def related? : Reference → Option (String × String)
  | own _ => none
  | related table column => some (table, column)

/-- The column is one of the schema, or the table is that of one of its relations. -/
def Known (s : Schema) : Reference → Prop
  | own column => PlainName column ∧ s.hasColumn column = true
  | related table column =>
    PlainName table ∧ PlainName column ∧ (s.relation? table).isSome = true

instance (s : Schema) : (r : Reference) → Decidable (r.Known s)
  | own column => inferInstanceAs (Decidable (PlainName column ∧ _))
  | related table column => inferInstanceAs (Decidable (PlainName table ∧ PlainName column ∧ _))

variable {s : Schema} {r : Reference}

theorem Known.text_ne_empty (h : r.Known s) : r.text ≠ "" := by
  cases r with
  | own column => exact h.1.ne_empty
  | related table column => simp [text]

theorem Known.trimmed_append (h : r.Known s) {last : String} (hlast : PlainName last)
    (middle : List Char) : Trimmed (r.text.toList ++ (middle ++ last.toList)) := by
  cases r with
  | own column => exact h.1.trimmed_append hlast middle
  | related table column =>
      have htrimmed := h.1.trimmed_append hlast ('.' :: column.toList ++ middle)
      simpa [text] using htrimmed

theorem Known.trimmed (h : r.Known s) : Trimmed r.text.toList := by
  cases r with
  | own column => exact h.1.trimmed
  | related table column =>
      have htrimmed := h.1.trimmed_append h.2.1 ['.']
      simpa [text] using htrimmed

/-- A dot is the only separator that a reference can have in it. -/
theorem Known.undivided (h : r.Known s) {c : Char} (hc : c ∈ separators) (hdot : c ≠ '.') :
    c ∉ r.text.toList := by
  cases r with
  | own column => exact h.1.undivided c hc
  | related table column => simp [text, h.1.undivided c hc, h.2.1.undivided c hc, hdot]

theorem Known.isEntry (h : r.Known s) : Reading.IsEntry r.text :=
  ⟨h.text_ne_empty, h.trimmed, h.undivided (by decide) (by decide)⟩

theorem splitReference?_text (h : r.Known s) : splitReference? r.text = r.related? := by
  cases r with
  | own column =>
      refine splitReference?_eq_none_iff.mpr ?_
      rw [isRelationReference, List.contains_eq_mem, decide_eq_false_iff_not]
      exact h.1.undivided '.' (by decide)
  | related table column =>
      refine splitReference?_append ?_ column
      rw [isRelationReference, List.contains_eq_mem, decide_eq_false_iff_not]
      exact h.1.undivided '.' (by decide)

theorem checkReference_text (h : r.Known s) : Reading.checkReference s r.text = .ok () := by
  rw [Reading.checkReference, splitReference?_text h]
  cases r with
  | own column => exact if_pos h.2
  | related table column => exact if_pos h.2.2

end Reference

/-- A request can name the column by a reference. -/
def Schema.Refers (s : Schema) (column : String) : Prop := ∃ r : Reference, r.Known s ∧ column = r.text

/-! ### What is written -/

/-- A condition whose column is known. Its value is a text, if its operator takes one. -/
structure Predicate.Writable (s : Schema) (p : Predicate) : Prop where
  column : s.Refers p.column
  value : ∃ v, p.value = if p.operator.takesValue then some (.string v) else none

def SortCondition.Writable (s : Schema) (c : SortCondition) : Prop := s.Refers c.column

def RequestedRelation.Writable (s : Schema) (r : RequestedRelation) : Prop :=
  PlainName r.table ∧ (s.relation? r.table).isSome = true

/-- The directives that say which page is read. -/
def pagingKeys : List String := ["limit", "offset", "page"]

theorem mem_directives_of_mem_pagingKeys {key : String} (h : key ∈ pagingKeys) :
    key ∈ Params.directives := by
  have hall : ∀ key ∈ pagingKeys, key ∈ Params.directives := by decide
  exact hall key h

/-- One argument of a request, as it is meant. -/
inductive RequestItem
  | filter (p : Predicate)
  | sort (conditions : List SortCondition)
  | fields (references : List Reference)
  | relations (requested : List RequestedRelation)
  | paging (key value : String)

def RequestItem.Writable (s : Schema) : RequestItem → Prop
  | .filter p => p.Writable s
  | .sort conditions => ∀ c ∈ conditions, c.Writable s
  | .fields references => ∀ r ∈ references, r.Known s
  | .relations requested => ∀ r ∈ requested, r.Writable s
  | .paging key _ => key ∈ pagingKeys

namespace RequestItem

def filter? : RequestItem → Option Predicate
  | filter p => some p
  | _ => none

def sort? : RequestItem → Option (List SortCondition)
  | sort conditions => some conditions
  | _ => none

def fields? : RequestItem → Option (List Reference)
  | fields references => some references
  | _ => none

def relations? : RequestItem → Option (List RequestedRelation)
  | relations requested => some requested
  | _ => none

def paging? (key : String) : RequestItem → Option String
  | paging written value => if written = key then some value else none
  | _ => none

end RequestItem

section Writing

variable (spell : String → String)

/-- The condition as a pair of `column[operator]` and its value, which is empty if there is none. -/
def Predicate.pair (p : Predicate) : String × String :=
  (p.column ++ "[" ++ spell p.operator.name ++ "]",
    match p.value with
    | some (.string v) => v
    | _ => "")

def SortCondition.entry (c : SortCondition) : String := c.column ++ "." ++ spell c.direction.name

def RequestedRelation.entry (r : RequestedRelation) : String := r.table ++ ":" ++ spell r.join.name

def sortText (conditions : List SortCondition) : String :=
  Text.join "," (conditions.map (·.entry spell))

def fieldsText (references : List Reference) : String := Text.join "," (references.map (·.text))

def relationsText (requested : List RequestedRelation) : String :=
  Text.join "," (requested.map (·.entry spell))

namespace RequestItem

def pair : RequestItem → String × String
  | filter p => p.pair spell
  | sort conditions => ("sort", sortText spell conditions)
  | fields references => ("fields", fieldsText references)
  | relations requested => ("relations", relationsText spell requested)
  | paging key value => (key, value)

def argument (item : RequestItem) : String := (item.pair spell).1 ++ "=" ++ (item.pair spell).2

end RequestItem

end Writing

/-! ### What is read -/

section Read

variable {s : Schema} {spell : String → String} (hspell : Respells spell)

include hspell

theorem SortCondition.Writable.isEntry {c : SortCondition} (h : c.Writable s) :
    Reading.IsEntry (c.entry spell) := by
  obtain ⟨r, hr, hcolumn⟩ := h
  have hword := c.direction.plainName_spell hspell
  refine ⟨by simp [SortCondition.entry], ?_, ?_⟩
  · have htrimmed := hr.trimmed_append hword ['.']
    simpa [SortCondition.entry, hcolumn] using htrimmed
  · simp [SortCondition.entry, hcolumn, hr.undivided (c := ',') (by decide) (by decide),
      hword.undivided ',' (by decide)]

theorem SortCondition.Writable.sortEntry {c : SortCondition} (h : c.Writable s) :
    Reading.sortEntry s (c.entry spell) = .ok c := by
  obtain ⟨r, hr, hcolumn⟩ := h
  -- A reference may have a dot in it, a direction has none: the last dot is the one that divides.
  have hsplit : Text.splitLast '.' (c.entry spell) = some (c.column, spell c.direction.name) :=
    Text.splitLast_of_toList (by simp [SortCondition.entry])
      ((c.direction.plainName_spell hspell).undivided '.' (by decide))
  have hcheck : Reading.checkReference s c.column = .ok () := hcolumn ▸ r.checkReference_text hr
  rw [Reading.sortEntry, hsplit]
  dsimp only
  rw [c.direction.ofName_spell hspell]
  dsimp only [bind, Except.bind]
  rw [hcheck]
  rfl

theorem Reading.sort_sortText {conditions : List SortCondition} (h : ∀ c ∈ conditions, c.Writable s) :
    Reading.sort s (sortText spell conditions) = .ok conditions := by
  have hentries : Reading.entries (sortText spell conditions) = conditions.map (·.entry spell) :=
    Reading.entries_join (List.forall_mem_map.mpr fun c hc => (h c hc).isEntry hspell)
  have hread := mapM_map_eq_ok fun c hc => (h c hc).sortEntry hspell
  rw [Reading.sort, hentries, hread, List.map_id']

omit hspell in
theorem Reading.Fields.ofList_map_text {references : List Reference} (h : ∀ r ∈ references, r.Known s) :
    Reading.Fields.ofList (references.map (·.text)) =
      ⟨references.filterMap (·.own?), references.filterMap (·.related?)⟩ := by
  induction references with
  | nil => rfl
  | cons first rest ih =>
      obtain ⟨hfirst, hrest⟩ := List.forall_mem_cons.mp h
      rw [List.map_cons, Reading.Fields.ofList, Reference.splitReference?_text hfirst, ih hrest]
      cases first <;> rfl

omit hspell in
theorem Reading.fields_fieldsText {references : List Reference} (h : ∀ r ∈ references, r.Known s) :
    Reading.fields s (fieldsText references) =
      .ok ⟨references.filterMap (·.own?), references.filterMap (·.related?)⟩ := by
  have hentries : Reading.entries (fieldsText references) = references.map (·.text) :=
    Reading.entries_join (List.forall_mem_map.mpr fun r hr => (h r hr).isEntry)
  have hcheck : (references.map (·.text)).forM (Reading.checkReference s) = .ok () :=
    forM_eq_ok_iff.mpr (List.forall_mem_map.mpr fun r hr => r.checkReference_text (h r hr))
  rw [Reading.fields, hentries, hcheck]
  exact congrArg Except.ok (Fields.ofList_map_text h)

theorem RequestedRelation.Writable.isEntry {r : RequestedRelation} (h : r.Writable s) :
    Reading.IsEntry (r.entry spell) := by
  have hword := r.join.plainName_spell hspell
  refine ⟨by simp [RequestedRelation.entry], ?_, ?_⟩
  · have htrimmed := h.1.trimmed_append hword [':']
    simpa [RequestedRelation.entry] using htrimmed
  · simp [RequestedRelation.entry, h.1.undivided ',' (by decide), hword.undivided ',' (by decide)]

theorem RequestedRelation.Writable.relationEntry {r : RequestedRelation} (h : r.Writable s) :
    Reading.relationEntry s (r.entry spell) = .ok r := by
  have hsplit : Text.splitOnce ':' (r.entry spell) = some (r.table, spell r.join.name) :=
    Text.splitOnce_of_toList (by simp [RequestedRelation.entry]) (h.1.undivided ':' (by decide))
  rw [Reading.relationEntry, hsplit]
  dsimp only
  rw [r.join.ofName_spell hspell]
  dsimp only [bind, Except.bind, Except.map]
  rw [Text.trim_of_trimmed h.1.trimmed, Reading.checkRelation, if_pos h.2]
  rfl

theorem Reading.relations_relationsText {requested : List RequestedRelation}
    (h : ∀ r ∈ requested, r.Writable s) :
    Reading.relations s (relationsText spell requested) = .ok requested := by
  have hentries : Reading.entries (relationsText spell requested) =
      requested.map (·.entry spell) :=
    Reading.entries_join (List.forall_mem_map.mpr fun r hr => (h r hr).isEntry hspell)
  have hread := mapM_map_eq_ok fun r hr => (h r hr).relationEntry hspell
  rw [Reading.relations, hentries, hread, List.map_id']

theorem Predicate.Writable.key {p : Predicate} (h : p.Writable s) :
    Reading.key (p.pair spell).1 = .ok (p.column, p.operator) := by
  obtain ⟨r, hr, hcolumn⟩ := h.column
  have hword := p.operator.plainName_spell hspell
  have hsplit : Text.splitOnceChars '[' (p.pair spell).1.toList =
      some (p.column.toList, (spell p.operator.name).toList ++ [']']) := by
    have hbracket : '[' ∉ p.column.toList := hcolumn ▸ hr.undivided (by decide) (by decide)
    have happend := Text.splitOnceChars_append hbracket ((spell p.operator.name).toList ++ [']'])
    simpa [Predicate.pair] using happend
  have htrim : Text.trimChars p.column.toList = p.column.toList := by
    rw [hcolumn]
    exact Text.trimChars_of_ends hr.trimmed.1 hr.trimmed.2
  rw [Reading.key, hsplit]
  dsimp only
  rw [Text.dropEnd?_append, Option.getD_some, Text.trimChars_of_ends hword.trimmed.1 hword.trimmed.2, htrim,
    String.ofList_toList, String.ofList_toList, p.operator.ofName_spell hspell]
  rfl

theorem Predicate.Writable.filter {p : Predicate} (h : p.Writable s) :
    Reading.filter s (p.pair spell) = .ok p := by
  obtain ⟨r, hr, hcolumn⟩ := h.column
  obtain ⟨v, hv⟩ := h.value
  have hcheck : Reading.checkReference s p.column = .ok () := hcolumn ▸ r.checkReference_text hr
  have hvalue : (if p.operator.takesValue then some (Json.string (p.pair spell).2) else none) =
      p.value := by
    rw [hv, Predicate.pair, hv]
    cases p.operator.takesValue <;> rfl
  rw [Reading.filter, h.key hspell]
  dsimp only [bind, Except.bind]
  rw [hcheck]
  exact congrArg (fun value => Except.ok (Predicate.mk p.column p.operator value)) hvalue

/-! ### Keys of a request -/

omit hspell in
/-- The key of a condition has a bracket in it, so it is no directive, whatever its column is. -/
theorem Predicate.key_notMem_directives (p : Predicate) :
    (p.pair spell).1 ∉ Params.directives := by
  have hbracket : '[' ∈ (p.pair spell).1.toList := by simp [Predicate.pair]
  have hplain : ∀ key ∈ Params.directives, '[' ∉ key.toList := by decide
  exact fun hmem => hplain _ hmem hbracket

theorem Predicate.Writable.trimmed_key {p : Predicate} (h : p.Writable s) :
    '=' ∉ (p.pair spell).1.toList ∧ Trimmed (p.pair spell).1.toList := by
  obtain ⟨r, hr, hcolumn⟩ := h.column
  have hword := p.operator.plainName_spell hspell
  -- The bracket that ends a key is a name like any other, as far as blanks are concerned.
  have hbracket : PlainName "]" := by decide
  constructor
  · simp [Predicate.pair, hcolumn, hr.undivided (c := '=') (by decide) (by decide),
      hword.undivided '=' (by decide)]
  · have htrimmed := hr.trimmed_append hbracket ('[' :: (spell p.operator.name).toList)
    simpa [Predicate.pair, hcolumn] using htrimmed

theorem RequestItem.Writable.ofArgument {item : RequestItem} (h : item.Writable s) :
    Params.ofArgument (item.argument spell) = .ok (item.pair spell) := by
  have hdirective : ∀ key ∈ Params.directives, '=' ∉ key.toList ∧ Trimmed key.toList := by decide
  have hkey : '=' ∉ (item.pair spell).1.toList ∧ Trimmed (item.pair spell).1.toList := by
    cases item with
    | filter p => exact Predicate.Writable.trimmed_key hspell h
    | sort conditions => exact hdirective "sort" (by decide)
    | fields references => exact hdirective "fields" (by decide)
    | relations requested => exact hdirective "relations" (by decide)
    | paging key value => exact hdirective key (mem_directives_of_mem_pagingKeys h)
  have hsplit : Text.splitOnce '=' (item.argument spell) =
      some ((item.pair spell).1, (item.pair spell).2) :=
    Text.splitOnce_of_toList (by simp [RequestItem.argument]) hkey.1
  rw [Params.ofArgument, hsplit]
  dsimp only
  rw [Text.trim_of_trimmed hkey.2]

end Read

/-! ### One flat list -/

theorem Params.get?_eq_getLast? (params : Params) (key : String) :
    params.get? key =
      (params.filterMap fun pair => if pair.1 = key then some pair.2 else none).getLast? := by
  have hguard : ∀ pair : String × String,
      (Option.guard (fun pair => pair.1 == key) pair).map (·.2) =
        if pair.1 = key then some pair.2 else none := by
    intro pair
    by_cases hkey : pair.1 = key <;> simp [Option.guard, hkey]
  calc params.get? key
      = ((params.filter (·.1 == key)).getLast?).map (·.2) := by
        rw [get?, ← List.head?_filter, List.filter_reverse, List.head?_reverse]
    _ = ((params.filter (·.1 == key)).map (·.2)).getLast? := List.getLast?_map.symm
    _ = _ := by rw [← List.filterMap_eq_filter, List.map_filterMap, funext hguard]

theorem Params.conditions_eq_filterMap (params : Params) :
    params.conditions =
      params.filterMap fun pair => if pair.1 ∈ directives then none else some pair := by
  rw [conditions, ← List.filterMap_eq_filter]
  refine congrArg (List.filterMap · params) (funext fun pair => ?_)
  by_cases hkey : pair.1 ∈ directives <;> simp [Option.guard, hkey]

namespace RequestItem

variable {s : Schema} {spell : String → String} {items : List RequestItem} {item : RequestItem}
  {key : String}

/-- The value that the item gives for a key. -/
def valueAt (spell : String → String) (key : String) (item : RequestItem) : Option String :=
  if (item.pair spell).1 = key then some (item.pair spell).2 else none

theorem valueAt_filter (p : Predicate) (hkey : key ∈ Params.directives) :
    (filter p).valueAt spell key = none :=
  if_neg fun heq => p.key_notMem_directives (heq ▸ hkey)

theorem Writable.valueAt_lists (h : item.Writable s) :
    item.valueAt spell "sort" = item.sort?.map (sortText spell) ∧
      item.valueAt spell "fields" = item.fields?.map fieldsText ∧
      item.valueAt spell "relations" = item.relations?.map (relationsText spell) := by
  cases item with
  | filter p =>
      have hnone : ∀ key ∈ Params.directives, (filter p).valueAt spell key = none :=
        fun key hkey => valueAt_filter p hkey
      exact ⟨hnone _ (by decide), hnone _ (by decide), hnone _ (by decide)⟩
  | sort conditions => exact ⟨rfl, rfl, rfl⟩
  | fields references => exact ⟨rfl, rfl, rfl⟩
  | relations requested => exact ⟨rfl, rfl, rfl⟩
  | paging key value =>
      have hlists : ∀ key ∈ pagingKeys, key ≠ "sort" ∧ key ≠ "fields" ∧ key ≠ "relations" := by decide
      obtain ⟨hsort, hfields, hrelations⟩ := hlists key h
      exact ⟨if_neg hsort, if_neg hfields, if_neg hrelations⟩

theorem valueAt_paging (hkey : key ∈ pagingKeys) (item : RequestItem) :
    item.valueAt spell key = item.paging? key := by
  have hlists : ∀ key ∈ pagingKeys, "sort" ≠ key ∧ "fields" ≠ key ∧ "relations" ≠ key := by decide
  obtain ⟨hsort, hfields, hrelations⟩ := hlists key hkey
  cases item with
  | filter p => exact valueAt_filter p (mem_directives_of_mem_pagingKeys hkey)
  | sort conditions => exact if_neg hsort
  | fields references => exact if_neg hfields
  | relations requested => exact if_neg hrelations
  | paging written value => rfl

/-- A directive is what the last argument with its key gives. -/
theorem get?_map_pair (items : List RequestItem) (key : String) :
    Params.get? (items.map (·.pair spell)) key =
      (items.filterMap (·.valueAt spell key)).getLast? := by
  rw [Params.get?_eq_getLast?, List.filterMap_map]
  rfl

theorem mapM_get? {α β : Type} {pick : RequestItem → Option α} {write : α → String}
    {read : String → Except EngineError β} {meant : α → β}
    (hpick : ∀ item ∈ items, item.valueAt spell key = (pick item).map write)
    (hread : ∀ item ∈ items, ∀ a ∈ pick item, read (write a) = .ok (meant a)) :
    (Params.get? (items.map (·.pair spell)) key).mapM read =
      .ok (((items.filterMap pick).getLast?).map meant) := by
  have hlast : Params.get? (items.map (·.pair spell)) key =
      ((items.filterMap pick).getLast?).map write := by
    rw [get?_map_pair, List.filterMap_congr hpick, ← List.map_filterMap, List.getLast?_map]
  rw [hlast]
  cases hpicked : (items.filterMap pick).getLast? with
  | none => rfl
  | some a =>
      obtain ⟨item, hitem, ha⟩ := List.mem_filterMap.mp (List.mem_of_getLast? hpicked)
      rw [Option.map_some, Option.mapM_some, hread item hitem a ha]
      rfl

theorem conditions_map_pair (h : ∀ item ∈ items, item.Writable s) :
    Params.conditions (items.map (·.pair spell)) =
      (items.filterMap (·.filter?)).map (·.pair spell) := by
  rw [Params.conditions_eq_filterMap, List.filterMap_map, List.map_filterMap]
  refine List.filterMap_congr fun item hitem => ?_
  cases item with
  | filter p => exact if_neg p.key_notMem_directives
  | sort conditions => rfl
  | fields references => rfl
  | relations requested => rfl
  | paging key value => exact if_pos (mem_directives_of_mem_pagingKeys (h _ hitem))

theorem Writable.parts (h : item.Writable s) :
    (∀ p ∈ item.filter?, p.Writable s) ∧
      (∀ conditions ∈ item.sort?, ∀ c ∈ conditions, c.Writable s) ∧
      (∀ references ∈ item.fields?, ∀ r ∈ references, r.Known s) ∧
      ∀ requested ∈ item.relations?, ∀ r ∈ requested, r.Writable s := by
  cases item with
  | filter p => exact ⟨fun q hq => Option.some.inj hq ▸ h, nofun, nofun, nofun⟩
  | sort conditions => exact ⟨nofun, fun l hl => Option.some.inj hl ▸ h, nofun, nofun⟩
  | fields references => exact ⟨nofun, nofun, fun l hl => Option.some.inj hl ▸ h, nofun⟩
  | relations requested => exact ⟨nofun, nofun, nofun, fun l hl => Option.some.inj hl ▸ h⟩
  | paging key value => exact ⟨nofun, nofun, nofun, nofun⟩

theorem filters_map_pair (hspell : Respells spell) (h : ∀ item ∈ items, item.Writable s) :
    Reading.filters s (items.map (·.pair spell)) = .ok (items.filterMap (·.filter?)) := by
  have hread : ((items.filterMap (·.filter?)).map (·.pair spell)).mapM (Reading.filter s) =
      .ok ((items.filterMap (·.filter?)).map id) := by
    refine mapM_map_eq_ok fun p hp => ?_
    obtain ⟨item, hitem, hpick⟩ := List.mem_filterMap.mp hp
    exact ((h item hitem).parts.1 p hpick).filter hspell
  rw [Reading.filters, conditions_map_pair h, hread, List.map_id]

/-- **A request is read as it was written.** The arguments may stand in any order, and their words be
in any letter case. The conditions are those that were written, in their order, and no others; each
directive is the last one that was written of its kind, and there is none where none was written, also
where a condition is on a column of that name. -/
theorem reads_as_written (s : Schema) {spell : String → String} (hspell : Respells spell)
    {items : List RequestItem} (h : ∀ item ∈ items, item.Writable s) :
    ∃ params, Params.ofArguments (items.map (·.argument spell)) = .ok params ∧
      params.conditions = (items.filterMap (·.filter?)).map (·.pair spell) ∧
      Reading.filters s params = .ok (items.filterMap (·.filter?)) ∧
      (params.get? "sort").mapM (Reading.sort s) = .ok (items.filterMap (·.sort?)).getLast? ∧
      (params.get? "fields").mapM (Reading.fields s) =
        .ok ((items.filterMap (·.fields?)).getLast?.map fun references =>
          ⟨references.filterMap (·.own?), references.filterMap (·.related?)⟩) ∧
      (params.get? "relations").mapM (Reading.relations s) =
        .ok (items.filterMap (·.relations?)).getLast? ∧
      ∀ key ∈ pagingKeys, params.get? key = (items.filterMap (·.paging? key)).getLast? := by
  refine ⟨items.map (·.pair spell), mapM_map_eq_ok fun item hitem => (h item hitem).ofArgument hspell,
    conditions_map_pair h, filters_map_pair hspell h, ?_, ?_, ?_, fun key hkey => ?_⟩
  · have hsort := mapM_get? (fun item hitem => (h item hitem).valueAt_lists.1)
      (fun item hitem l hl => Reading.sort_sortText hspell ((h item hitem).parts.2.1 l hl))
    rwa [Option.map_id'] at hsort
  · exact mapM_get? (fun item hitem => (h item hitem).valueAt_lists.2.1)
      (fun item hitem l hl => Reading.fields_fieldsText ((h item hitem).parts.2.2.1 l hl))
  · have hrelations := mapM_get? (fun item hitem => (h item hitem).valueAt_lists.2.2)
      (fun item hitem l hl => Reading.relations_relationsText hspell ((h item hitem).parts.2.2.2 l hl))
    rwa [Option.map_id'] at hrelations
  · rw [get?_map_pair, List.filterMap_congr fun item _ => valueAt_paging hkey item]

section Reserved

/-- A table whose columns go by the names of directives. -/
def bookings : Schema :=
  { table := "Bookings", primaryKey := some "limit"
    columns := [Column.ofType "limit" .number, Column.ofType "sort" .string]
    relations := [Relation.link "page" "id" "Bookings" "sort"] }

def bookingItems : List RequestItem :=
  [.filter ⟨"limit", .gte, some (.string "5")⟩, .paging "limit" "20",
    .filter ⟨"sort", .equals, some (.string "a=b,c[d].e")⟩, .filter ⟨"page.fields", .notNull, none⟩,
    .sort [⟨"sort", .descending⟩, ⟨"page.offset", .ascending⟩],
    .fields [.own "sort", .related "page" "limit", .own "limit"], .relations [⟨"page", .left⟩]]

theorem reads_as_written_reserved :
    ∃ params, Params.ofArguments ["limit[gte]=5", "limit=20", "sort[equals]=a=b,c[d].e",
        "page.fields[not_null]=", "sort=sort.desc,page.offset.asc", "fields=sort,page.limit,limit",
        "relations=page:left"] = .ok params ∧
      Reading.filters bookings params =
        .ok [⟨"limit", .gte, some (.string "5")⟩, ⟨"sort", .equals, some (.string "a=b,c[d].e")⟩,
          ⟨"page.fields", .notNull, none⟩] ∧
      (params.get? "sort").mapM (Reading.sort bookings) =
        .ok (some [⟨"sort", .descending⟩, ⟨"page.offset", .ascending⟩]) ∧
      (params.get? "fields").mapM (Reading.fields bookings) =
        .ok (some ⟨["sort", "limit"], [("page", "limit")]⟩) ∧
      (params.get? "relations").mapM (Reading.relations bookings) = .ok (some [⟨"page", .left⟩]) ∧
      params.get? "limit" = some "20" ∧ params.get? "page" = none := by
  have hwritable : ∀ item ∈ bookingItems, item.Writable bookings := by
    intro item hitem
    simp only [bookingItems, List.mem_cons, List.not_mem_nil, or_false] at hitem
    rcases hitem with rfl | rfl | rfl | rfl | rfl | rfl | rfl
    · exact ⟨⟨.own "limit", by decide, rfl⟩, "5", rfl⟩
    · exact List.mem_cons_self
    · exact ⟨⟨.own "sort", by decide, rfl⟩, "a=b,c[d].e", rfl⟩
    · exact ⟨⟨.related "page" "fields", by decide, rfl⟩, "", rfl⟩
    · refine List.forall_mem_cons.mpr ⟨⟨.own "sort", by decide, rfl⟩, ?_⟩
      exact List.forall_mem_singleton.mpr ⟨.related "page" "offset", by decide, rfl⟩
    · change ∀ r ∈ [Reference.own "sort", .related "page" "limit", .own "limit"], r.Known bookings
      decide
    · exact List.forall_mem_singleton.mpr ⟨by decide, by decide⟩
  obtain ⟨params, harguments, -, hfilters, hsort, hfields, hrelations, hpaging⟩ :=
    reads_as_written bookings respells_lower hwritable
  exact ⟨params, harguments, hfilters, hsort, hfields, hrelations, hpaging "limit" (by decide),
    hpaging "page" (by decide)⟩

end Reserved

end RequestItem

end DataAccess
