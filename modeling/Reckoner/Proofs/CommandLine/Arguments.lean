import Mathlib.Data.List.Basic
import Reckoner.CommandLine.Arguments

/-!
# Arguments piece by piece

What the arguments of a command are read as is put together from what their pieces are read as, as
long as no piece ends the options.  So an option may stand anywhere among the arguments, and what
the arguments say about other options does not depend on where it stands.

## Implementation notes

`read?` has one equation for each form of an argument behind which it goes on reading.  The proofs
follow its recursion and use these equations instead of unfolding it.
-/

namespace Reckoner.CommandLine.Arguments

variable {specs : List OptionSpec} {interspersed : Bool} {front rest : List String}
  {given later : Arguments} {argument name other value : String} {options : List (String × String)}

section Equations

variable {spec : OptionSpec} {c : Char} {long shorts : List Char}

attribute [local simp] read?

theorem read?_flag (split : argument.toList = '-' :: '-' :: long) (more : long = [] → False)
    (parts : splitLong long = (name, none)) (known : specs.find? (·.name = name) = some spec)
    (flag : (!spec.takesValue) = true) :
    read? specs interspersed (argument :: rest) =
      (read? specs interspersed rest).map (withOption spec.name "") := by
  simp_all

theorem read?_valued (split : argument.toList = '-' :: '-' :: long) (more : long = [] → False)
    (parts : splitLong long = (name, none)) (known : specs.find? (·.name = name) = some spec)
    (valued : ¬(!spec.takesValue) = true) :
    read? specs interspersed (argument :: value :: rest) =
      (read? specs interspersed rest).map (withOption spec.name value) := by
  simp_all

theorem read?_attached (split : argument.toList = '-' :: '-' :: long) (more : long = [] → False)
    (parts : splitLong long = (name, some value)) (known : specs.find? (·.name = name) = some spec)
    (valued : spec.takesValue = true) :
    read? specs interspersed (argument :: rest) =
      (read? specs interspersed rest).map (withOption spec.name value) := by
  simp_all

theorem read?_shorts (split : argument.toList = '-' :: c :: shorts) (single : c = '-' → False)
    (joined : readShort? specs (c :: shorts) = some (options, none)) :
    read? specs interspersed (argument :: rest) =
      (read? specs interspersed rest).map (withOptions options) := by
  simp_all

theorem read?_shorts_valued (split : argument.toList = '-' :: c :: shorts)
    (single : c = '-' → False)
    (joined : readShort? specs (c :: shorts) = some (options, some name)) :
    read? specs interspersed (argument :: value :: rest) =
      (read? specs interspersed rest).map (withOptions options ∘ withOption name value) := by
  simp_all [Function.comp_def]

theorem read?_positional (mark : argument.toList = ['-', '-'] → False)
    (long : ∀ long, argument.toList = '-' :: '-' :: long → False)
    (short : ∀ c shorts, argument.toList = '-' :: c :: shorts → False) :
    read? specs interspersed (argument :: rest) =
      if interspersed then (read? specs interspersed rest).map (withPositional argument)
      else some ⟨[], argument :: rest⟩ := by
  rw [read?]
  split
  · rename_i marked
    exact (mark marked).elim
  · rename_i _ split
    exact (long _ split).elim
  · rename_i _ split
    exact (short _ _ split).elim
  · rfl

end Equations

section Append

/-- The arguments of two pieces of a command line. -/
def append (given later : Arguments) : Arguments :=
  ⟨given.options ++ later.options, given.positional ++ later.positional⟩

@[simp] theorem append_empty : append ⟨[], []⟩ = id := rfl

@[simp] theorem withOption_append :
    append (withOption name value given) = withOption name value ∘ given.append := rfl

@[simp] theorem withOptions_append :
    append (withOptions options given) = withOptions options ∘ given.append := by
  funext later
  simp [append, withOptions]

@[simp] theorem withPositional_append :
    append (withPositional value given) = withPositional value ∘ given.append := rfl

/-- Behind a piece that is read on its own and does not end the options, the rest is read as it is
read on its own. -/
theorem read?_append (whole : read? specs true front = some given) (unended : "--" ∉ front) :
    read? specs true (front ++ rest) = (read? specs true rest).map given.append := by
  fun_induction read? specs true front generalizing given with
  | case1 =>
      cases whole
      rw [List.nil_append, append_empty, Option.map_id]
      rfl
  | case2 argument _ mark =>
      have ended : argument = "--" := String.toList_inj.1 mark
      exact absurd (ended ▸ List.mem_cons_self) unended
  | case4 argument long more split name spec following known flag parts ih =>
      obtain ⟨inner, read, rfl⟩ := Option.map_eq_some_iff.1 whole
      rw [List.cons_append, read?_flag split more parts known flag,
        ih read (List.not_mem_of_not_mem_cons unended)]
      simp
  | case6 argument long more split name spec known valued value following parts ih =>
      obtain ⟨inner, read, rfl⟩ := Option.map_eq_some_iff.1 whole
      have unended := List.not_mem_of_not_mem_cons unended
      rw [List.cons_append, List.cons_append, read?_valued split more parts known valued,
        ih read (List.not_mem_of_not_mem_cons unended)]
      simp
  | case7 argument long more split name spec value following known valued parts ih =>
      obtain ⟨inner, read, rfl⟩ := Option.map_eq_some_iff.1 whole
      rw [List.cons_append, read?_attached split more parts known valued,
        ih read (List.not_mem_of_not_mem_cons unended)]
      simp
  | case10 argument c shorts _ single split options following joined ih =>
      obtain ⟨inner, read, rfl⟩ := Option.map_eq_some_iff.1 whole
      rw [List.cons_append, read?_shorts split single joined,
        ih read (List.not_mem_of_not_mem_cons unended)]
      simp
  | case12 argument c shorts _ single split options name value following joined ih =>
      obtain ⟨inner, read, rfl⟩ := Option.map_eq_some_iff.1 whole
      have unended := List.not_mem_of_not_mem_cons unended
      rw [List.cons_append, List.cons_append, read?_shorts_valued split single joined,
        ih read (List.not_mem_of_not_mem_cons unended)]
      simp [Function.comp_def]
  | case13 argument following _ mark long short ih =>
      obtain ⟨inner, read, rfl⟩ := Option.map_eq_some_iff.1 whole
      rw [List.cons_append, read?_positional mark long short, if_pos rfl,
        ih read (List.not_mem_of_not_mem_cons unended)]
      simp
  | case14 _ _ separated => exact absurd rfl separated
  | case3 | case5 | case8 | case9 | case11 => cases whole

end Append

section Insert

/-- What is said about an option does not depend on other options among the arguments. -/
theorem has_insert (different : name ≠ other) :
    (given.append (withOption other value later)).has name = (given.append later).has name := by
  have unequal : (other == name) = false := beq_eq_false_iff_ne.2 different.symm
  simp [append, withOption, has, unequal]

theorem has_inserted : (given.append (withOption name value later)).has name = true := by
  simp [append, withOption, has]

theorem value?_insert (different : name ≠ other) :
    (given.append (withOption other value later)).value? name =
      (given.append later).value? name := by
  have unequal : (name == other) = false := beq_eq_false_iff_ne.2 different
  simp [append, withOption, value?, List.lookup_append, List.lookup_cons, unequal]

end Insert

section Front

end Front

end Reckoner.CommandLine.Arguments
