import CheckNetwork.Android.GeoAddressPolicy
import CheckNetwork.Frontend.Address

/-!
# Public addresses, everywhere

The server, the browser and the phone find the same addresses public.
-/

namespace CheckNetwork.Network

open Go

theorem string_eq {ip : IP} (sized : ip.length = 4 ∨ ip.length = 16) :
    ip.string = ((ip.to4.elim (IP.v6Text ip) IP.decimalText).map .scalar : GoString) := by
  have nonempty : ip ≠ [] := by
    rintro rfl
    simp at sized
  have known : ¬ (ip.length ≠ 4 ∧ ip.length ≠ 16) := by omega
  rw [IP.string, if_neg nonempty, if_neg known]
  cases ip.to4 <;> rfl

theorem scalars_inj {first second : List Char}
    (same : (first.map .scalar : GoString) = second.map .scalar) : first = second :=
  List.map_injective_iff.mpr (fun _ _ => Rune.scalar.inj) same

/-- The class that the browser gives to a text is public if the text is a literal
of an address that the server finds public; every address has such texts.  The
phone finds the canonical text of an address that is no mapped one public if the
server finds the address public. -/
theorem publicAddress_parity :
    (∀ ip text, readLiteral text = some ip →
      (Frontend.addressClass text = .publicUse ↔ isPublicDiagnosticIP ip = true)) ∧
    (∀ text, readLiteral text = none → Frontend.addressClass text ≠ .publicUse) ∧
    (∀ ip : IP, ip.length = 4 → readLiteral (IP.decimalText ip) = some ip ∧
      readLiteral ("::ffff:".toList ++ IP.decimalText ip) = some (IP.v4InV6Prefix ++ ip)) ∧
    (∀ ip : IP, ip.length = 16 → readLiteral (IP.v6Text ip) = some ip) ∧
    (∀ (ip : IP) (text : List Char), ip.string = text.map .scalar →
      (ip.length = 4 ∨ ip.length = 16 ∧ ip.to4 = none) →
        Android.isCanonicalPublic text = isPublicDiagnosticIP ip) := by
  refine ⟨?_, ?_, ?_, fun ip => readLiteral_v6Text, ?_⟩
  · intro ip text read
    rw [Frontend.addressClass_eq_publicUse_iff, read]
    simp
  · intro text unread
    rw [Ne, Frontend.addressClass_eq_publicUse_iff, unread]
    simp
  · exact fun ip four => ⟨readLiteral_decimalText four, readLiteral_mapped four⟩
  · intro ip text written kind
    rw [string_eq (kind.imp_right And.left)] at written
    rcases kind with four | ⟨sixteen, unmapped⟩
    · rw [to4_of_length four] at written
      rw [← scalars_inj written]
      exact Android.isCanonicalPublic_decimalText four
    · rw [unmapped] at written
      rw [← scalars_inj written]
      exact Android.isCanonicalPublic_v6Text sixteen unmapped

end CheckNetwork.Network
