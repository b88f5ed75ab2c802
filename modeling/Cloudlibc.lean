import Cloudlibc.Dirent.ReaddirLoads
import Cloudlibc.Locale.GroupingBoundaries
import Cloudlibc.Locale.Iconv
import Cloudlibc.Monetary.StrfmonSign
import Cloudlibc.Netdb.NameRoundTrip
import Cloudlibc.Pthread.RwlockSafety
import Cloudlibc.Pthread.SpecificValues
import Cloudlibc.Search.TreeCalls
import Cloudlibc.Stdio.Getwc
import Cloudlibc.Stdio.HexFloat
import Cloudlibc.Stdio.OpenMemstream
import Cloudlibc.Stdio.PrintWideString
import Cloudlibc.Stdio.SscanfReturn
import Cloudlibc.Stdlib.Exit
import Cloudlibc.Stdlib.QsortSorts
import Cloudlibc.Stdlib.StrtointConversion
import Cloudlibc.String.Strstr
import Cloudlibc.String.Strverscmp
import Cloudlibc.Time.UtcRoundTrip
import Cloudlibc.Uchar.Char16
import Cloudlibc.Unistd.CryptVerification
import Cloudlibc.Unistd.ShaDigest
import Cloudlibc.Time.StrftimeWeeks
import Cloudlibc.Locale.Gb2312Rows
import Cloudlibc.Stdio.BufferGrowth
import Cloudlibc.Locale.SourceWindows
import Cloudlibc.Monetary.StrfmonAlignment
import Cloudlibc.Stdlib.Arc4randomUniform
