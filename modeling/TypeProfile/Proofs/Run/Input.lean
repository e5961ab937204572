import TypeProfile.Proofs.CommandLine.Spelling
import TypeProfile.Proofs.Profile
import TypeProfile.Proofs.Run.Course
import TypeProfile.Proofs.Wire.RoundTrip

/-!
# Two ways to hand in a profile

A profile comes from a file or is described by options, and what options say is put on top of a
file. Since options only turn attributes on, a file can be replaced by an option for each of its
attributes, in any order and as often as one likes, and a run cannot tell the difference.
-/

namespace TypeProfile

open CommandLine

namespace CommandLine.Source

@[simp] theorem typeClass_apply (source : Source) (base : Profile) :
    (source.apply base).typeClass = source.typeClass.getD base.typeClass :=
  Profile.typeClass_insertMany _ _

theorem get_apply (source : Source) (base : Profile) (flag : Attribute) :
    (source.apply base).get flag = (decide (flag ∈ source.flags) || base.get flag) :=
  Profile.get_insertMany _ _ flag

/-- What options put on top of a profile, they can say together with all that is in it. -/
theorem apply_default_eq {source plain : Source} {base : Profile}
    (hclass : plain.typeClass = some (source.typeClass.getD base.typeClass))
    (hflags : ∀ flag, flag ∈ plain.flags ↔ flag ∈ base.enabled ∨ flag ∈ source.flags) :
    plain.apply default = source.apply base := by
  apply Profile.ext_get
  · simp [hclass]
  · intro flag
    have hoff : (default : Profile).get flag = false := rfl
    rw [get_apply, get_apply, hoff, Bool.or_false, Bool.eq_iff_iff, Bool.or_eq_true,
      decide_eq_true_iff, decide_eq_true_iff, hflags, Profile.mem_enabled_iff, or_comm]

end CommandLine.Source

namespace Environment

variable {environment : Environment}

/-- A run finds out about a source only what profile it describes. -/
theorem perform_ofGiven_congr {name : CommandName} {first second : Given}
    (hconfiguration : first.configuration = second.configuration)
    (houtput : first.output = second.output)
    (hload : environment.load ⟨first.file, first.typeClass, first.flags⟩ =
      environment.load ⟨second.file, second.typeClass, second.flags⟩) :
    environment.perform (.ofGiven name {} first) =
      environment.perform (.ofGiven name {} second) := by
  cases name <;>
    simp only [perform, Invocation.ofGiven, hconfiguration, houtput, Environment.command,
      withProfile, hload]

/-- A run with a file, and options on top of it, is the run with an option for everything that is in
the file, for every command and under every configuration. -/
theorem run_file_eq_run_flags {path text : String} {base : Profile} {typeClass : Option TypeClass}
    {flags all : List Attribute} (hfile : environment.file path = .ok text)
    (hbase : Profile.codec.decode text = .ok base)
    (hall : ∀ flag, flag ∈ all ↔ flag ∈ base.enabled ∨ flag ∈ flags)
    (name : CommandName) (configuration : Option String) (output : Option OutputFormat)
    (verbose : Bool) :
    let fromFile : Given := { configuration, output, typeClass, flags, file := some path, verbose }
    let fromFlags : Given :=
      { configuration, output, typeClass := some (typeClass.getD base.typeClass), flags := all,
        verbose }
    (∀ first second, Invocation.ofArguments first = .ok (.ofGiven name {} fromFile) →
      Invocation.ofArguments second = .ok (.ofGiven name {} fromFlags) →
      environment.run first = environment.run second) ∧
    (path ≠ "" → verbose = false →
      ∀ first second, Asks name fromFile first → Asks name fromFlags second →
      environment.run first = environment.run second) := by
  intro fromFile fromFlags
  -- Both sources describe one profile, and nothing else of them is looked at.
  have hload : environment.load ⟨some path, typeClass, flags⟩ =
      environment.load ⟨none, some (typeClass.getD base.typeClass), all⟩ := by
    have hfromFile : environment.Supplies ⟨some path, typeClass, flags⟩ base :=
      .inr ⟨path, text, rfl, hfile, hbase⟩
    have hfromFlags :
        environment.Supplies ⟨none, some (typeClass.getD base.typeClass), all⟩ default :=
      .inl ⟨rfl, rfl⟩
    rw [load_eq_ok_iff.mpr ⟨base, hfromFile, rfl⟩, load_eq_ok_iff.mpr ⟨default, hfromFlags, rfl⟩]
    exact congrArg _ (Source.apply_default_eq rfl hall).symm
  have hperform : environment.perform (.ofGiven name {} fromFile) =
      environment.perform (.ofGiven name {} fromFlags) := perform_ofGiven_congr rfl rfl hload
  have hread (first second : List String)
      (hfirst : Invocation.ofArguments first = .ok (.ofGiven name {} fromFile))
      (hsecond : Invocation.ofArguments second = .ok (.ofGiven name {} fromFlags)) :
      environment.run first = environment.run second := by
    rw [run_of_ofArguments hfirst, run_of_ofArguments hsecond, hperform]
    rfl
  refine ⟨hread, fun hpath hverbose first second hfirst hsecond => ?_⟩
  have hnamed : fromFile.file ≠ some "" := fun hempty => hpath (Option.some.inj hempty)
  exact hread first second (hfirst.ofArguments_eq hnamed hverbose)
    (hsecond.ofArguments_eq nofun hverbose)

/-- An array whose file names two attributes, presented once with a further attribute on top of the
file and once with all three of them given by themselves, one of them twice. -/
theorem run_file_eq_run_flags_of_array :
    let base := (Profile.ofTypeClass .array).insertMany [.publicBase, .virtualFunction]
    let environment : Environment :=
      { file := fun path =>
          if path = "p.json" then .ok (Profile.codec.write base).compact else .error .missing }
    environment.run ["-o", "json", "show", "--file", "p.json", "-ahas_protected_nsdm"] =
      environment.run ["show", "--attr=has_virtual_mf", "-a", "has_public_base_class", "-t=array",
        "-ahas_protected_nsdm", "--attr", "has_virtual_mf", "--output=json"] := by
  intro base environment
  have hfile : environment.file "p.json" = .ok (Profile.codec.write base).compact := rfl
  have hbase := Profile.codec_lawful.decode_compact base
  have hall (flag : Attribute) :
      flag ∈ [.virtualFunction, .publicBase, .protectedMember, .virtualFunction] ↔
        flag ∈ base.enabled ∨ flag ∈ [Attribute.protectedMember] := by
    cases flag <;> decide
  have hfirst : Invocation.ofArguments
      ["-o", "json", "show", "--file", "p.json", "-ahas_protected_nsdm"] =
        .ok (.ofGiven .present {}
          { output := some .json, flags := [.protectedMember], file := some "p.json" }) := by
    decide
  have hsecond : Invocation.ofArguments
      ["show", "--attr=has_virtual_mf", "-a", "has_public_base_class", "-t=array",
        "-ahas_protected_nsdm", "--attr", "has_virtual_mf", "--output=json"] =
        .ok (.ofGiven .present {}
          { output := some .json, typeClass := some .array,
            flags := [.virtualFunction, .publicBase, .protectedMember, .virtualFunction] }) := by
    decide
  obtain ⟨hread, -⟩ :=
    run_file_eq_run_flags hfile hbase hall .present none (some .json) false
  exact hread _ _ hfirst hsecond

end Environment

end TypeProfile
