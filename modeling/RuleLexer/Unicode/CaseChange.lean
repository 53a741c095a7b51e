import RuleLexer.Unicode.CaseFolding
import RuleLexer.Unicode.Property

/-!
# Characters that change with case

Whether a character differs from its small form, its capital form, its form in titles, or its form
under folding. Such a form may have several characters.
-/

namespace RuleLexer.Unicode

/-- Characters without a variant of one character whose capital form has several. -/
def expandingUppercaseTable : Table :=
  [⟨0x131, 0x131, 1⟩, ⟨0x149, 0x149, 1⟩, ⟨0x1F0, 0x1F0, 1⟩, ⟨0x587, 0x587, 1⟩, ⟨0x1E96, 0x1E9A, 1⟩,
   ⟨0x1F50, 0x1F56, 2⟩, ⟨0x1FB2, 0x1FB4, 2⟩, ⟨0x1FB6, 0x1FB7, 1⟩, ⟨0x1FC2, 0x1FC4, 2⟩,
   ⟨0x1FC6, 0x1FC7, 1⟩, ⟨0x1FD2, 0x1FD2, 1⟩, ⟨0x1FD6, 0x1FD7, 1⟩, ⟨0x1FE2, 0x1FE4, 2⟩,
   ⟨0x1FE6, 0x1FE7, 1⟩, ⟨0x1FF2, 0x1FF4, 2⟩, ⟨0x1FF6, 0x1FF7, 1⟩, ⟨0xFB00, 0xFB04, 1⟩,
   ⟨0xFB13, 0xFB17, 1⟩]

/-- Characters that are small already and yet fold to others. -/
def foldedSmallTable : Table :=
  [⟨0xB5, 0xB5, 1⟩, ⟨0xDF, 0xDF, 1⟩, ⟨0x149, 0x149, 1⟩, ⟨0x17F, 0x17F, 1⟩, ⟨0x345, 0x345, 1⟩,
   ⟨0x3C2, 0x3C2, 1⟩, ⟨0x3D0, 0x3D1, 1⟩, ⟨0x3D5, 0x3D6, 1⟩, ⟨0x3F0, 0x3F1, 1⟩, ⟨0x3F5, 0x3F5, 1⟩,
   ⟨0x587, 0x587, 1⟩, ⟨0x13F8, 0x13FD, 1⟩, ⟨0x1C80, 0x1C88, 1⟩, ⟨0x1E9A, 0x1E9B, 1⟩,
   ⟨0x1F80, 0x1F87, 1⟩, ⟨0x1F90, 0x1F97, 1⟩, ⟨0x1FA0, 0x1FA7, 1⟩, ⟨0x1FB2, 0x1FB4, 1⟩,
   ⟨0x1FB7, 0x1FB7, 1⟩, ⟨0x1FC2, 0x1FC4, 1⟩, ⟨0x1FC7, 0x1FC7, 1⟩, ⟨0x1FF2, 0x1FF4, 1⟩,
   ⟨0x1FF7, 0x1FF7, 1⟩, ⟨0xAB70, 0xABBF, 1⟩, ⟨0xFB00, 0xFB06, 1⟩, ⟨0xFB13, 0xFB17, 1⟩]

/-- Whether a character has another case variant. -/
def hasVariants (char : Char) : Bool :=
  1 < (variants char).length

/-- Whether a character differs from its small form. -/
def changesWhenLowercased (char : Char) : Bool :=
  char == '\u0130' ||
    ((isUppercase char || GeneralCategory.titlecaseLetter.contains char) && hasVariants char)

/-- Whether a character differs from its capital form. -/
def changesWhenUppercased (char : Char) : Bool :=
  expandingUppercaseTable.contains char ||
    ((isLowercase char || GeneralCategory.titlecaseLetter.contains char) && hasVariants char)

/-- Whether a character differs from its form at the beginning of a title. The letters of Georgian
keep their form there, and so do the title forms of Latin and Greek. -/
def changesWhenTitlecased (char : Char) : Bool :=
  char == '\u01c4' || char == '\u01c7' || char == '\u01ca' || char == '\u01f1' ||
    (changesWhenUppercased char && !GeneralCategory.titlecaseLetter.contains char &&
      !(0x10D0 ≤ char.toNat && char.toNat ≤ 0x10FF))

/-- Whether a character differs from its form in any case. -/
def changesWhenCasemapped (char : Char) : Bool :=
  changesWhenLowercased char || changesWhenUppercased char || changesWhenTitlecased char

/-- Whether a character differs from its form under folding. The capital letters of Cherokee are the
representatives of their variants. -/
def changesWhenFolded (char : Char) : Bool :=
  foldedSmallTable.contains char ||
    (changesWhenLowercased char && !(0x13A0 ≤ char.toNat && char.toNat ≤ 0x13F5))

end RuleLexer.Unicode
