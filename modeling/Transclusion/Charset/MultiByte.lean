import Transclusion.Charset.Gb18030
import Transclusion.Charset.Iso2022Jp

/-!
# Charsets of several bytes per character

The charsets of East Asia.
-/

namespace Transclusion

inductive MultiByte where
  | gbk
  | gb18030
  | big5
  | eucJp
  | iso2022Jp
  | shiftJis
  | eucKr
deriving DecidableEq, Repr

namespace MultiByte

/-- The name by which a charset of several bytes is known. -/
def name : MultiByte → String
  | gbk => "GBK"
  | gb18030 => "gb18030"
  | big5 => "Big5"
  | eucJp => "EUC-JP"
  | iso2022Jp => "ISO-2022-JP"
  | shiftJis => "Shift_JIS"
  | eucKr => "EUC-KR"

def codec : MultiByte → Codec
  | gbk => Gb18030.codec true
  | gb18030 => Gb18030.codec false
  | big5 => Transclusion.big5.codec
  | eucJp => EucJp.codec
  | iso2022Jp => Iso2022Jp.codec
  | shiftJis => Transclusion.shiftJis.codec
  | eucKr => Transclusion.eucKr.codec

end MultiByte

end Transclusion
