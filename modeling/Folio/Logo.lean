import Folio.Text.Base64
import Folio.Text.Utf8

/-!
# Logos

A logo that is vector markup is embedded as a data address. Any other logo is an address
already.
-/

namespace Folio

/-- Whether a text without leading whitespace is vector markup. -/
def isVectorMarkup (text : Text) : Bool :=
  Text.startsWith "<svg".toList text || Text.startsWith "<?xml".toList text

/-- The address of a logo. -/
def logoAddress (logo : Text) : Text :=
  let trimmed := Text.trimStart logo
  if isVectorMarkup trimmed then
    "data:image/svg+xml;base64,".toList ++ Text.base64 (Text.toUtf8 trimmed)
  else logo

end Folio
