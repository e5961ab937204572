import TypeProfile.Proofs.Json.RoundTrip
import TypeProfile.Wire

/-!
# Profiles and results survive being written

Whatever is handed out as JSON, in either layout, is read back as what it was: profiles, reasons,
verdicts and reports whether or not they agree with themselves, and layouts of any three texts.
-/

namespace TypeProfile

open Json

theorem TypeClass.codec_lawful : TypeClass.codec.Lawful :=
  .word vocabulary

theorem Flags.codec_lawful : Flags.codec.Lawful :=
  .convert (Record.toCodec_lawful (by decide) fun _ => .boolean) fun _ => rfl

theorem Profile.codec_lawful : Profile.codec.Lawful := by
  refine .convert (Record.toCodec_lawful (by decide) fun key => ?_) fun _ => rfl
  cases key with
  | typeClass => exact TypeClass.codec_lawful
  | attributes => exact Flags.codec_lawful

theorem Reasons.codec_lawful : Reasons.codec.Lawful :=
  .convert (Record.toCodec_lawful (by decide) fun _ => .boolean) fun _ => rfl

theorem Verdict.codec_lawful : Verdict.codec.Lawful := by
  refine .convert (Record.toCodec_lawful (by decide) fun key => ?_) fun _ => rfl
  cases key with
  | typeClass => exact TypeClass.codec_lawful
  | isAggregate => exact .boolean
  | reasons => exact .nullable Reasons.codec_lawful nofun

theorem Report.codec_lawful : Report.codec.Lawful := by
  refine .convert (Record.toCodec_lawful (by decide) fun key => ?_) fun _ => rfl
  cases key with
  | typeClass => exact TypeClass.codec_lawful
  | aggregate => exact Verdict.codec_lawful
  | defaultConstructible => exact .boolean
  | triviallyDefaultConstructible => exact .boolean

theorem Layout.codec_lawful : Layout.codec.Lawful :=
  .convert (Record.toCodec_lawful (by decide) fun _ => .text) fun _ => rfl

/-- Decoding undoes encoding, on one line and over several. -/
theorem decode_write :
    (∀ profile, Profile.codec.decode (Profile.codec.write profile).compact = .ok profile ∧
      Profile.codec.decode (Profile.codec.write profile).pretty = .ok profile) ∧
    (∀ reasons, Reasons.codec.decode (Reasons.codec.write reasons).compact = .ok reasons ∧
      Reasons.codec.decode (Reasons.codec.write reasons).pretty = .ok reasons) ∧
    (∀ verdict, Verdict.codec.decode (Verdict.codec.write verdict).compact = .ok verdict ∧
      Verdict.codec.decode (Verdict.codec.write verdict).pretty = .ok verdict) ∧
    (∀ report, Report.codec.decode (Report.codec.write report).compact = .ok report ∧
      Report.codec.decode (Report.codec.write report).pretty = .ok report) ∧
    ∀ layout, Layout.codec.decode (Layout.codec.write layout).compact = .ok layout ∧
      Layout.codec.decode (Layout.codec.write layout).pretty = .ok layout := by
  refine ⟨fun profile => ?_, fun reasons => ?_, fun verdict => ?_, fun report => ?_,
    fun layout => ?_⟩
  · exact ⟨Profile.codec_lawful.decode_compact profile, Profile.codec_lawful.decode_pretty profile⟩
  · exact ⟨Reasons.codec_lawful.decode_compact reasons, Reasons.codec_lawful.decode_pretty reasons⟩
  · exact ⟨Verdict.codec_lawful.decode_compact verdict, Verdict.codec_lawful.decode_pretty verdict⟩
  · exact ⟨Report.codec_lawful.decode_compact report, Report.codec_lawful.decode_pretty report⟩
  · exact ⟨Layout.codec_lawful.decode_compact layout, Layout.codec_lawful.decode_pretty layout⟩

end TypeProfile
