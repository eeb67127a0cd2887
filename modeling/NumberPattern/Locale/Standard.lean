import NumberPattern.Locale.Book

/-! The locales that every session starts with. -/

namespace NumberPattern.Locale

def english : Locale := {}

def canadianFrench : Locale where
  point := ","
  group := " "
  words := ⟨"k", "M", "G", "T"⟩
  ordinal := .french

def spanish : Locale where
  point := ","
  group := "."
  words := ⟨"k", "mm", "b", "t"⟩
  ordinal := .spanish

def polish : Locale where
  point := ","
  group := " "
  words := ⟨"tys.", "mln", "mld", "bln"⟩
  ordinal := .fixed "."
  currency := "PLN"

def brazilianPortuguese : Locale where
  point := ","
  group := "."
  words := ⟨"mil", "milhões", "b", "t"⟩
  ordinal := .fixed "º"
  currency := "R$"

def belgianDutch : Locale where
  point := ","
  group := " "
  words := ⟨"k", " mln", " mld", " bln"⟩
  ordinal := .belgianDutch
  currency := "€ "

def turkish : Locale where
  point := ","
  group := "."
  words := ⟨"bin", "milyon", "milyar", "trilyon"⟩
  ordinal := .turkish
  currency := "₺"

def japanese : Locale where
  words := ⟨"千", "百万", "十億", "兆"⟩
  ordinal := .fixed "."
  currency := "¥"

def hungarian : Locale where
  point := ","
  group := " "
  words := ⟨"E", "M", "Mrd", "T"⟩
  ordinal := .fixed "."
  currency := " Ft"

def standard : LocaleBook :=
  .ofList [("en", english), ("fr-ca", canadianFrench), ("es", spanish), ("pl", polish),
    ("pt-br", brazilianPortuguese), ("be-nl", belgianDutch), ("tr", turkish), ("ja", japanese),
    ("hu", hungarian)]

end NumberPattern.Locale
