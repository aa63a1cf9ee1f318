import DownloadClient.Main
import DownloadClient.Proofs.Credentials
import DownloadClient.Proofs.GrantedToken
import DownloadClient.Proofs.Message
import DownloadClient.Proofs.PinnedToken
import DownloadClient.Proofs.Recognition
import DownloadClient.Proofs.Recovery
import DownloadClient.Proofs.Rows
import DownloadClient.Proofs.Sent
import DownloadClient.Proofs.SharedCache
import DownloadClient.Proofs.TwoLanguages
import DownloadClient.Proofs.UnderBase
